import IdentityCrates.Dmrtd.Proto.BacChip
import IdentityCrates.Dmrtd.Properties.HandshakeSteps
import IdentityCrates.Dmrtd.Properties.LockStep

/-!
# Basic access control comes through

A terminal and a chip with the same key, whatever random bytes either draws: the handshake succeeds,
and leaves the two ends with one cipher and one counter.

Both sides seal what they say (`Bac.Sealed`): a message of three parts, encrypted, with a MAC behind.
What one side has sealed the other opens, and from the four random values both compute the same
session (`Bac.session`).
-/

namespace Dmrtd

open Rust Octets

/-! ## Sealed messages -/

namespace Bac

/-- `e` and `m` are the message `s` as it is sent under `key`. -/
structure Sealed (P : Primitives) (key : DBAKey) (s e m : Bytes) : Prop where
  encrypted : encryptS P (key.encKey P) s = .ok e
  decrypted : decryptEIcc P (key.encKey P) e = .ok s
  mac : macE P (key.macKey P) e = .ok m
  length_e : e.length = eLen
  length_m : m.length = macLen

variable {P : Primitives} {key : DBAKey}

lemma decryptEIcc_encryptS {k s e : Bytes} (hkey : k.length = kLen) (hs : s.length = sLen)
    (h : encryptS P k s = .ok e) : decryptEIcc P k e = .ok s := by
  obtain ⟨e', he', hlen⟩ := encryptS_isOk P hkey hs
  obtain rfl := Outcome.ok.inj (he'.symm.trans h)
  obtain ⟨cipher, hnew⟩ := DesedeCipher.new_isOk (Or.inl hkey)
    (List.length_replicate (n := 8) (a := (0 : UInt8)))
  simp only [encryptS, checkLen_of_length _ hkey, checkLen_of_length _ hs, hnew, Outcome.ok_bind,
    Outcome.mapErr_ok, Outcome.mapErr_eq_ok] at h
  have hdec := cipher.decrypt_encrypt P (by rw [hs]; rfl) h
  simp only [decryptEIcc, checkLen_of_length _ hkey, checkLen_of_length _ hlen, hnew, hdec,
    Outcome.ok_bind, Outcome.mapErr_ok]

lemma exists_sealed (P : Primitives) (key : DBAKey) {s : Bytes} (hs : s.length = sLen) :
    ∃ e m, Sealed P key s e m := by
  obtain ⟨e, he, hlen⟩ := encryptS_isOk P (key.length_encKey P) hs
  obtain ⟨m, hm, hmlen⟩ := macE_isOk P (key.length_macKey P) hlen
  exact ⟨e, m, he, decryptEIcc_encryptS (key.length_encKey P) hs he, hm, hlen, hmlen⟩

namespace Sealed

variable {s e m : Bytes} (h : Sealed P key s e m)

include h

lemma length_append : (e ++ m).length = eLen + macLen := by
  rw [List.length_append, h.length_e, h.length_m]

lemma generateEaData : Bac.generateEaData e m = .ok (e ++ m) := by
  simp only [Bac.generateEaData, checkLen_of_length _ h.length_e, checkLen_of_length _ h.length_m,
    Outcome.ok_bind, Outcome.pure_eq]

lemma extractEiccAndMicc : Bac.extractEiccAndMicc (e ++ m) = .ok (e, m) :=
  extractEiccAndMicc_eq_ok.mpr ⟨rfl, h.length_e, h.length_m⟩

lemma verifyEicc : Bac.verifyEicc P e (key.macKey P) m = .ok true :=
  verifyEicc_eq_true.mpr ⟨h.mac, h.length_m⟩

end Sealed

/-! ## The session that four random values determine -/

/-- What both sides compute when the handshake is done. -/
def session (P : Primitives) (rndIfd rndIcc kifd kicc : Bytes) : Outcome BacError MrtdSM := do
  let ks ← calculateSessionKeys P kifd kicc
  let ssc ← calculateSsc rndIfd rndIcc
  establishSm P ks.1 ks.2 ssc

lemma session_isOk (P : Primitives) (rndIfd rndIcc : FixedBytes 8) (kifd kicc : FixedBytes 16) :
    ∃ cipher ssc, session P rndIfd rndIcc kifd kicc = .ok ⟨cipher, ssc⟩ ∧ ssc.bitSize = 64 ∧
      cipher.Lawful 64 := by
  obtain ⟨ks, hks, henc, hmac⟩ := calculateSessionKeys_isOk P kifd.property kicc.property
  obtain ⟨ssc, hssc⟩ := calculateSsc_isOk rndIfd.property rndIcc.property
  obtain ⟨cipher, hcipher⟩ := DesSmCipher.new_isOk (Or.inl henc) (Or.inl hmac)
  have hwidth : ssc.bitSize = 64 := by
    unfold calculateSsc at hssc
    obtain ⟨-, -, hssc⟩ := Outcome.bind_eq_ok.mp hssc
    obtain ⟨-, -, hssc⟩ := Outcome.bind_eq_ok.mp hssc
    exact (Ssc.new_eq_ok (Outcome.mapErr_eq_ok.mp hssc)).1
  refine ⟨cipher.toSmCipher P, ssc, ?_, hwidth, cipher.lawful P 64⟩
  simp only [session, hks, hssc, establishSm, hcipher, Outcome.ok_bind, Outcome.mapErr_ok,
    Outcome.pure_eq]

lemma generateS_append (a b : FixedBytes 8) (c : FixedBytes 16) :
    generateS a b c = .ok (a.val ++ b.val ++ c.val) := by
  simp only [generateS, checkLen_of_length _ (show a.val.length = nonceLen from a.property),
    checkLen_of_length _ (show b.val.length = nonceLen from b.property),
    checkLen_of_length _ (show c.val.length = kLen from c.property), Outcome.ok_bind,
    Outcome.pure_eq]

lemma length_message (a b : FixedBytes 8) (c : FixedBytes 16) :
    (a.val ++ b.val ++ c.val).length = sLen := by
  rw [List.length_append, List.length_append, a.property, b.property, c.property]
  rfl

/-- The middle part is recognised, and the last part is what is taken out. -/
lemma verifyRndIfdAndExtractKicc_append (a b : FixedBytes 8) (c : FixedBytes 16) :
    verifyRndIfdAndExtractKicc b (a.val ++ b.val ++ c.val) = .ok c.val := by
  refine verifyRndIfdAndExtractKicc_eq_ok.mpr ⟨b.property, length_message a b c, ?_, ?_⟩
  · rw [List.append_assoc, drop_append_of_length (show a.val.length = nonceLen from a.property),
      take_append_of_length (show b.val.length = nonceLen from b.property)]
  · refine (drop_append_of_length ?_).symm
    rw [List.length_append, a.property, b.property]
    rfl

lemma take_message (a b : FixedBytes 8) (c : FixedBytes 16) :
    (a.val ++ b.val ++ c.val).take nonceLen = a.val := by
  rw [List.append_assoc, take_append_of_length (show a.val.length = nonceLen from a.property)]

end Bac

/-! ## The two sides -/

section Sides

variable {P : Primitives} {key : DBAKey} {rndIfd rndIcc : FixedBytes 8} {kifd kicc : FixedBytes 16}
  {e m : Bytes}

/-- The chip opens what the terminal has sealed, and seals its own part. -/
lemma BacChip.mutualAuthenticate_sealed
    (h : Bac.Sealed P key (rndIfd.val ++ rndIcc.val ++ kifd.val) e m) {e' m' : Bytes}
    (h' : Bac.Sealed P key (rndIcc.val ++ rndIfd.val ++ kicc.val) e' m') {cipher : SmCipher}
    {ssc : Ssc} (hsession : Bac.session P rndIfd rndIcc kifd kicc = .ok ⟨cipher, ssc⟩) :
    mutualAuthenticate P key rndIcc kicc (e ++ m) = .ok (e' ++ m', ⟨cipher, ssc⟩) := by
  simp only [mutualAuthenticate, h.extractEiccAndMicc, h.verifyEicc, h.decrypted, Outcome.ok_bind,
    not_true_eq_false, if_false, Bac.verifyRndIfdAndExtractKicc_append, Bac.take_message,
    Bac.generateS_append, h'.encrypted, h'.mac, h'.generateEaData]
  obtain ⟨ks, hks, hrest⟩ := Outcome.bind_eq_ok.mp hsession
  obtain ⟨ssc', hssc, hsm⟩ := Outcome.bind_eq_ok.mp hrest
  rw [hks, Outcome.ok_bind, hssc, Outcome.ok_bind, hsm]
  rfl

namespace BacSession

/-- The command of the terminal carries what it has sealed. -/
lemma externalAuthenticate_sealed {self : BacSession}
    (h : Bac.Sealed P self.key (self.rndIfd.val ++ rndIcc.val ++ self.kifd.val) e m) :
    self.externalAuthenticate P rndIcc = .ok ⟨Cla.noSm, Ins.externalAuthenticate, 0, 0,
      some (e ++ m), Bac.eLen + Bac.macLen⟩ := by
  have hlimits : (CommandApdu.mk Cla.noSm Ins.externalAuthenticate 0 0 (some (e ++ m))
      (Bac.eLen + Bac.macLen)).InLimits := by
    refine ⟨?_, (by decide : Bac.eLen + Bac.macLen ≤ 65536)⟩
    change (e ++ m).length ≤ 0xFFFF
    rw [h.length_append]
    decide
  simp only [externalAuthenticate, Bac.generateS_append, h.encrypted, h.mac, h.generateEaData,
    Outcome.ok_bind]
  exact Outcome.mapErr_eq_ok.mpr (CommandApdu.new_eq_ok.mpr ⟨rfl, hlimits⟩)

/-- The terminal opens what the chip has sealed. -/
lemma handleAuth_sealed {self : BacSession}
    (h : Bac.Sealed P self.key (rndIcc.val ++ self.rndIfd.val ++ kicc.val) e m) {sm : MrtdSM}
    (hsession : Bac.session P self.rndIfd rndIcc self.kifd kicc = .ok sm) :
    self.handleAuth P (e ++ m) rndIcc = .ok sm := by
  simp only [handleAuth, h.length_append, ne_eq, not_true_eq_false, if_false, h.extractEiccAndMicc,
    h.verifyEicc, h.decrypted, Outcome.ok_bind, Bac.verifyRndIfdAndExtractKicc_append]
  exact hsession

/-! ## The calls of the session -/

lemma nextRequest_start :
    nextRequest P ⟨key, rndIfd, kifd, .start⟩ =
      (.ok (.inl (CommandApdu.mk Cla.noSm Ins.getChallenge 0 0 none Bac.nonceLen).toBytes),
        ⟨key, rndIfd, kifd, .waitingForChallenge⟩) := rfl

lemma nextRequest_ready {cmd : CommandApdu}
    (hcmd : externalAuthenticate P ⟨key, rndIfd, kifd, .readyForExternalAuth rndIcc⟩ rndIcc =
      .ok cmd) :
    nextRequest P ⟨key, rndIfd, kifd, .readyForExternalAuth rndIcc⟩ =
      (.ok (.inl cmd.toBytes), ⟨key, rndIfd, kifd, .waitingForAuth rndIcc⟩) := by
  have hnext : next P ⟨key, rndIfd, kifd, .readyForExternalAuth rndIcc⟩ =
      (.ok (.sendApdu cmd.toBytes), ⟨key, rndIfd, kifd, .waitingForAuth rndIcc⟩) := by
    simp only [next, Proc.get_bind_apply, hcmd]
    rfl
  rw [nextRequest, Proc.bind_apply_ok hnext]
  rfl

lemma nextRequest_completed (sm : MrtdSM) :
    nextRequest P ⟨key, rndIfd, kifd, .completed (some sm)⟩ =
      (.ok (.inr sm), ⟨key, rndIfd, kifd, .completed none⟩) := rfl

lemma responseData_success {data : Bytes} (h : data ≠ []) :
    responseData (data ++ StatusWord.success.toBytes) = .ok data := by
  rw [responseData, ResponseApdu.fromBytes_append, if_neg h]
  rfl

lemma feedResponse_challenge :
    feedResponse P (rndIcc.val ++ StatusWord.success.toBytes)
        ⟨key, rndIfd, kifd, .waitingForChallenge⟩ =
      (.ok (), ⟨key, rndIfd, kifd, .readyForExternalAuth rndIcc⟩) := by
  have hne : rndIcc.val ≠ [] := List.ne_nil_of_length_pos (by rw [rndIcc.property]; decide)
  simp [feedResponse, BacState.isWaiting, consumeResponse, responseData_success hne,
    handleChallenge, rndIcc.property]

lemma feedResponse_auth {data : Bytes} {sm : MrtdSM} (hdata : data ≠ [])
    (hauth : handleAuth P ⟨key, rndIfd, kifd, .waitingForAuth rndIcc⟩ data rndIcc = .ok sm) :
    feedResponse P (data ++ StatusWord.success.toBytes)
        ⟨key, rndIfd, kifd, .waitingForAuth rndIcc⟩ =
      (.ok (), ⟨key, rndIfd, kifd, .completed (some sm)⟩) := by
  simp [feedResponse, BacState.isWaiting, consumeResponse, responseData_success hdata, hauth]

end BacSession

end Sides

/-! ## The handshake -/

namespace MrtdApi

section

variable {P : Primitives} {key : DBAKey} {rndIfd rndIcc : FixedBytes 8} {kifd kicc : FixedBytes 16}
  {e m e' m' : Bytes} {cipher : SmCipher} {ssc : Ssc}

/-- GET CHALLENGE. -/
lemma passes_challenge (key : DBAKey) (rndIfd : FixedBytes 8) (kifd : FixedBytes 16)
    {random : Entropy} (challenge : Option (FixedBytes 8)) (h : random.take 8 = rndIcc.val) :
    Passes (bacParty P) ⟨key, rndIfd, kifd, .start⟩ (BacChip.mk (P := P) key random challenge)
      ⟨key, rndIfd, kifd, .readyForExternalAuth rndIcc⟩ ⟨key, random.drop 8, some rndIcc⟩ none := by
  have hlen : 8 ≤ random.length := by
    have htake := congrArg List.length h
    rw [List.length_take, rndIcc.property] at htake
    omega
  refine ⟨⟨Cla.noSm, Ins.getChallenge, 0, 0, none, Bac.nonceLen⟩, _, rndIcc.val,
    ⟨Nat.zero_le _, by decide⟩, BacSession.nextRequest_start, ?_, BacSession.feedResponse_challenge⟩
  obtain ⟨nonce, hnonce⟩ := rndIcc
  obtain rfl : random.take 8 = nonce := h
  exact congrArg some (dif_pos hlen)

/-- EXTERNAL AUTHENTICATE. -/
lemma passes_authenticate {random : Entropy} (h : random.take 16 = kicc.val)
    (hsealed : Bac.Sealed P key (rndIfd.val ++ rndIcc.val ++ kifd.val) e m)
    (hsealed' : Bac.Sealed P key (rndIcc.val ++ rndIfd.val ++ kicc.val) e' m')
    (hsession : Bac.session P rndIfd rndIcc kifd kicc = .ok ⟨cipher, ssc⟩) :
    Passes (bacParty P) ⟨key, rndIfd, kifd, .readyForExternalAuth rndIcc⟩
      (BacChip.mk (P := P) key random (some rndIcc))
      ⟨key, rndIfd, kifd, .completed (some ⟨cipher, ssc⟩)⟩ ⟨key, random.drop 16, none⟩
      (some ⟨cipher, ssc⟩) := by
  have hbuilt : BacSession.externalAuthenticate P
      ⟨key, rndIfd, kifd, .readyForExternalAuth rndIcc⟩ rndIcc = .ok _ :=
    BacSession.externalAuthenticate_sealed hsealed
  have hopened : BacSession.handleAuth P ⟨key, rndIfd, kifd, .waitingForAuth rndIcc⟩ (e' ++ m')
      rndIcc = .ok ⟨cipher, ssc⟩ := BacSession.handleAuth_sealed hsealed' hsession
  have hne : e' ++ m' ≠ [] := by
    refine List.ne_nil_of_length_pos ?_
    rw [hsealed'.length_append]
    decide
  have hlimits : (CommandApdu.mk Cla.noSm Ins.externalAuthenticate 0 0 (some (e ++ m))
      (Bac.eLen + Bac.macLen)).InLimits := by
    refine ⟨?_, (by decide : Bac.eLen + Bac.macLen ≤ 65536)⟩
    change (e ++ m).length ≤ 0xFFFF
    rw [hsealed.length_append]
    decide
  refine ⟨_, _, e' ++ m', hlimits, BacSession.nextRequest_ready hbuilt, ?_,
    BacSession.feedResponse_auth hne hopened⟩
  have hlen : 16 ≤ random.length := by
    have htake := congrArg List.length h
    rw [List.length_take, kicc.property] at htake
    omega
  have hauth := BacChip.mutualAuthenticate_sealed hsealed hsealed' hsession
  obtain ⟨half, hhalf⟩ := kicc
  obtain rfl : random.take 16 = half := h
  refine congrArg some ?_
  simp only [BacChip.externalAuthenticate, dif_pos hlen]
  rw [show CommandApdu.Wire.body _ = e ++ m from rfl, hauth]

end

/-- Eight bytes and the sixteen behind them. -/
lemma exists_random {entropy : Entropy} (h : 24 ≤ entropy.length) :
    ∃ (nonce : FixedBytes 8) (half : FixedBytes 16), entropy.take 8 = nonce.val ∧
      (entropy.drop 8).take 16 = half.val :=
  ⟨⟨entropy.take 8, by rw [List.length_take]; omega⟩,
    ⟨(entropy.drop 8).take 16, by rw [List.length_take, List.length_drop]; omega⟩, rfl, rfl⟩

/-- **Completeness of BAC.**  A terminal and a chip with the same key establish a session, whatever
random bytes they draw; afterwards the two ends are in step. -/
lemma initSessionViaBac_card {σ : Type} [CardApplication σ] {P : Primitives} {entropy : Entropy}
    (hentropy : 24 ≤ entropy.length) {chip : BacChip P} (hchip : 24 ≤ chip.entropy.length) (app : σ)
    (sm : Option MrtdSM) :
    ∃ cipher ssc, initSessionViaBac P chip.key entropy (MrtdApi.mk (Card.mk chip none app) sm) =
      (.ok (), ⟨⟨⟨chip.key, chip.entropy.drop 24, none⟩, some ⟨cipher, ssc⟩, app⟩,
        some ⟨cipher, ssc⟩⟩) ∧ ssc.bitSize = 64 ∧ cipher.Lawful 64 := by
  obtain ⟨key, random, challenge⟩ := chip
  obtain ⟨rndIfd, kifd, hifd, hkifd⟩ := exists_random hentropy
  obtain ⟨rndIcc, kicc, hicc, hkicc⟩ := exists_random hchip
  obtain ⟨cipher, ssc, hsession, hwidth, law⟩ := Bac.session_isOk P rndIfd rndIcc kifd kicc
  obtain ⟨e, m, hsealed⟩ := Bac.exists_sealed P key (Bac.length_message rndIfd rndIcc kifd)
  obtain ⟨e', m', hsealed'⟩ := Bac.exists_sealed P key (Bac.length_message rndIcc rndIfd kicc)
  refine ⟨cipher, ssc, ?_, hwidth, law⟩
  have hnew : BacSession.new key entropy =
      .ok (BacSession.withRandomBytes key rndIfd kifd, entropy.drop 24) := by
    rw [BacSession.new, dif_pos hentropy, Outcome.ok.injEq, Prod.mk.injEq]
    exact ⟨congrArg₂ (BacSession.withRandomBytes key) (Subtype.ext hifd) (Subtype.ext hkifd), rfl⟩
  have hdrive : (bacParty P).drive exchange (fun e => MrtdApiError.session e.message)
      (BacSession.withRandomBytes key rndIfd kifd)
      (MrtdApi.mk (Card.mk (BacChip.mk (P := P) key random challenge) none app) sm) =
      (.ok ⟨cipher, ssc⟩, ⟨⟨⟨key, random.drop 24, none⟩, some ⟨cipher, ssc⟩, app⟩, sm⟩) := by
    rw [BacSession.withRandomBytes, drive_passes (passes_challenge key rndIfd kifd challenge hicc),
      drive_passes (passes_authenticate hkicc hsealed hsealed' hsession), List.drop_drop]
    exact (bacParty P).drive_done (BacSession.nextRequest_completed _) _
  rw [initSessionViaBac, hnew, Outcome.mapErr_ok, Proc.lift_ok_bind_apply, Proc.bind_apply_ok hdrive]
  rfl

end MrtdApi

end Dmrtd
