import IdentityCrates.Lib.Machine
import IdentityCrates.Dmrtd.Proto.MrtdSm

/-!
# The send sequence counter never repeats

A secure messaging session reuses one key for its whole life, so what keeps two of its messages
apart is the counter that goes into every MAC and every initialisation vector.  This file follows
the counter through an arbitrary sequence of `protect` and `unprotect` calls.

A call is *counted* when it is a `protect`, or an `unprotect` of a response with a body.  Each
counted call advances the counter by exactly one, wherever in the call a failure strikes, and
computes under the value it advanced to (`SmCall.ComputesUnder`): two ciphers that agree at that
value cannot be told apart by the call.  A bare status word advances nothing and uses no cipher.
-/

namespace Dmrtd

open Rust Octets

/-- The two calls a session serves. -/
inductive SmCall where
  | protect (cmd : CommandApdu)
  | unprotect (rapdu : ResponseApdu)

/-- What a call returns: a protected command or a response. -/
inductive SmAnswer where
  | command (wire : CommandApdu)
  | response (rapdu : ResponseApdu)

namespace SmCall

/-- Serve one call. -/
def step : SmCall → MrtdSM → Outcome SmError SmAnswer × MrtdSM
  | protect cmd, sm =>
    (SmAnswer.command <$> (MrtdSM.protect cmd sm).1, (MrtdSM.protect cmd sm).2)
  | unprotect rapdu, sm =>
    (SmAnswer.response <$> (MrtdSM.unprotect rapdu sm).1, (MrtdSM.unprotect rapdu sm).2)

/-- Does the call count towards the counter? -/
def counted : SmCall → Bool
  | protect _ => true
  | unprotect rapdu => MrtdSM.hasBody rapdu

end SmCall

/-- Two ciphers that cannot be told apart at the counter value `ssc`: they agree on everything they
encrypt or decrypt under it and on the MAC of everything that starts with its bytes. -/
structure SmCipher.AgreeAt (ssc : Ssc) (c c' : SmCipher) : Prop where
  cipherAlgorithm : c.cipherAlgorithm = c'.cipherAlgorithm
  encrypt : ∀ data, c.encrypt data (some ssc) = c'.encrypt data (some ssc)
  decrypt : ∀ edata, c.decrypt edata (some ssc) = c'.decrypt edata (some ssc)
  mac : ∀ data, ssc.toBytes <+: data → c.mac data = c'.mac data

/-- The call, made in state `sm`, leaves the counter at `ssc` and consults the cipher only there. -/
structure SmCall.ComputesUnder (call : SmCall) (sm : MrtdSM) (ssc : Ssc) : Prop where
  after : (call.step sm).2 = ⟨sm.cipher, ssc⟩
  only : ∀ cipher', SmCipher.AgreeAt ssc sm.cipher cipher' →
    (call.step ⟨cipher', sm.ssc⟩).1 = (call.step sm).1

namespace MrtdSM

variable {c c' : SmCipher} {ssc : Ssc}

lemma blockLen_congr (h : SmCipher.AgreeAt ssc c c') :
    (MrtdSM.mk c ssc).blockLen = (MrtdSM.mk c' ssc).blockLen := by
  rw [blockLen_eq, blockLen_eq, h.cipherAlgorithm]

/-- The MAC input starts with the counter, so ciphers that agree at the counter agree on it. -/
lemma generateN_mac_congr (h : SmCipher.AgreeAt ssc c c') (m : Bytes) {β : Type}
    (f : Bytes → Outcome SmError β) :
    ((MrtdSM.mk c ssc).generateN m >>= fun n => c.mac n >>= f) =
      ((MrtdSM.mk c' ssc).generateN m >>= fun n => c'.mac n >>= f) := by
  have hgen : (MrtdSM.mk c ssc).generateN m = (MrtdSM.mk c' ssc).generateN m := by
    simp only [generateN, blockLen_congr h]
  rw [← hgen]
  rcases hn : (MrtdSM.mk c ssc).generateN m with n | e | _
  · have hpre : ssc.toBytes <+: n :=
      (List.prefix_append _ _).trans (Iso9797.pad_prefix (generateN_eq_ok.mp hn))
    rw [Outcome.ok_bind, Outcome.ok_bind, h.mac n hpre]
  · rfl
  · rfl

lemma generateDataDo_congr (h : SmCipher.AgreeAt ssc c c') (cmd : CommandApdu) :
    (MrtdSM.mk c ssc).generateDataDo cmd = (MrtdSM.mk c' ssc).generateDataDo cmd := by
  simp only [generateDataDo, blockLen_congr h, h.encrypt]

lemma decryptDataDo_congr (h : SmCipher.AgreeAt ssc c c') (dataDo : Option DecodedTv) :
    (MrtdSM.mk c ssc).decryptDataDo dataDo = (MrtdSM.mk c' ssc).decryptDataDo dataDo := by
  simp only [decryptDataDo, blockLen_congr h, h.decrypt]

lemma protectBody_congr (h : SmCipher.AgreeAt ssc c c') (cmd : CommandApdu) :
    (MrtdSM.mk c ssc).protectBody cmd = (MrtdSM.mk c' ssc).protectBody cmd := by
  simp only [protectBody, generateDataDo_congr h, generateM, blockLen_congr h,
    generateN_mac_congr h]

lemma unprotectBody_congr (h : SmCipher.AgreeAt ssc c c') (rapdu : ResponseApdu) :
    (MrtdSM.mk c ssc).unprotectBody rapdu = (MrtdSM.mk c' ssc).unprotectBody rapdu := by
  have hmac : ∀ (data : Bytes) {β : Type} (f : Bytes → Outcome SmError β),
      ((MrtdSM.mk c ssc).generateK data >>= fun k => c.mac k >>= f) =
        ((MrtdSM.mk c' ssc).generateK data >>= fun k => c'.mac k >>= f) :=
    fun data _ f => generateN_mac_congr h data f
  simp only [unprotectBody, decryptDataDo_congr h, hmac]

end MrtdSM

namespace SmCall

/-- A counted call advances the counter by one, succeeding or failing, and computes under the value
it advanced to. -/
lemma computesUnder_of_counted {call : SmCall} (h : call.counted = true) (sm : MrtdSM) :
    call.ComputesUnder sm sm.ssc.increment := by
  cases call with
  | protect cmd =>
    refine ⟨rfl, fun cipher' hagree => ?_⟩
    exact congrArg (SmAnswer.command <$> ·) (MrtdSM.protectBody_congr hagree cmd).symm
  | unprotect rapdu =>
    refine ⟨?_, fun cipher' hagree => ?_⟩
    · simp only [step, MrtdSM.unprotect_apply_body h]
      rfl
    · simp only [step, MrtdSM.unprotect_apply_body h]
      exact congrArg (SmAnswer.response <$> ·) (MrtdSM.unprotectBody_congr hagree rapdu).symm

/-- A call that does not count leaves the session alone and answers the same under any cipher. -/
lemma step_of_not_counted {call : SmCall} (h : call.counted = false) (sm : MrtdSM) :
    (call.step sm).2 = sm ∧ ∀ cipher', (call.step ⟨cipher', sm.ssc⟩).1 = (call.step sm).1 := by
  cases call with
  | protect cmd => simp [counted] at h
  | unprotect rapdu =>
    simp only [step, MrtdSM.unprotect_apply_bare h]
    exact ⟨trivial, fun _ => trivial⟩

/-- After any run the counter has advanced once for each counted call. -/
lemma final_eq (sm : MrtdSM) (calls : List SmCall) :
    Machine.final step sm calls =
      ⟨sm.cipher, Ssc.increment^[calls.countP counted] sm.ssc⟩ := by
  induction calls generalizing sm with
  | nil => rfl
  | cons call calls ih =>
    rw [Machine.final_cons, ih, List.countP_cons]
    by_cases h : call.counted = true
    · rw [(computesUnder_of_counted h sm).after, if_pos h, Function.iterate_succ_apply]
    · rw [(step_of_not_counted (by simpa using h) sm).1, if_neg h, Nat.add_zero]

/-- Counted calls at different places of a run are preceded by different numbers of counted
calls. -/
lemma countP_take_lt {calls : List SmCall} {j k : Nat} (hjk : j < k) (hk : k < calls.length)
    (hc : (calls[k]).counted = true) :
    (calls.take (j + 1)).countP counted < (calls.take (k + 1)).countP counted := by
  have hle : (calls.take (j + 1)).countP counted ≤ (calls.take k).countP counted :=
    (List.take_sublist_take_left (by omega)).countP_le
  rw [List.take_succ_eq_append_getElem hk, List.countP_append, List.countP_singleton, if_pos hc]
  omega

end SmCall

/-- The counter under which call number `k` of a run from `sm` computes. -/
def sscOfCall (sm : MrtdSM) (calls : List SmCall) (k : Nat) : Ssc :=
  Ssc.increment^[(calls.take (k + 1)).countP SmCall.counted] sm.ssc

/-- **Counter freshness.**  Counters stay within their width, count modulo it and survive a round
trip through their bytes.  In a run with fewer counted calls than the counter has values, the
`k`-th call, if counted, computes under the initial counter plus the number of counted calls up to
and including it, and no two counted calls compute under the same value; a call that is not counted
uses no cipher and leaves the session as it is. -/
theorem ssc_never_repeats :
    (∀ (bytes : Bytes) (bitSize : Nat) (s : Ssc), Ssc.new bytes bitSize = .ok s →
      s.bitSize = bitSize ∧ s.value = ofBE bytes) ∧
    (∀ (s : Ssc) (n : Nat), (Ssc.increment^[n] s).value < 2 ^ s.bitSize ∧
      (Ssc.increment^[n] s).value = (s.value + n) % 2 ^ s.bitSize) ∧
    (∀ s : Ssc, Ssc.new s.toBytes s.bitSize = .ok s) ∧
    ∀ (sm : MrtdSM) (calls : List SmCall), calls.countP SmCall.counted < 2 ^ sm.ssc.bitSize →
      (∀ (k : Nat) (hk : k < calls.length), (calls[k]).counted = true →
        (calls[k]).ComputesUnder (Machine.final SmCall.step sm (calls.take k))
          (sscOfCall sm calls k) ∧
        (sscOfCall sm calls k).value =
          (sm.ssc.value + (calls.take (k + 1)).countP SmCall.counted) % 2 ^ sm.ssc.bitSize) ∧
      (∀ (k : Nat) (hk : k < calls.length), (calls[k]).counted = false →
        ((calls[k]).step (Machine.final SmCall.step sm (calls.take k))).2 =
          Machine.final SmCall.step sm (calls.take k) ∧
        ∀ cipher', ((calls[k]).step
            ⟨cipher', (Machine.final SmCall.step sm (calls.take k)).ssc⟩).1 =
          ((calls[k]).step (Machine.final SmCall.step sm (calls.take k))).1) ∧
      (∀ (j k : Nat) (hj : j < calls.length) (hk : k < calls.length), j ≠ k →
        (calls[j]).counted = true → (calls[k]).counted = true →
        sscOfCall sm calls j ≠ sscOfCall sm calls k) := by
  refine ⟨fun bytes bitSize s h => Ssc.new_eq_ok h, fun s n => ⟨?_, s.iterate_increment_value n⟩,
    Ssc.new_toBytes, fun sm calls hlt => ⟨?_, ?_, ?_⟩⟩
  · have hval := (Ssc.increment^[n] s).value_lt
    rwa [Ssc.iterate_increment_bitSize] at hval
  · intro k hk hc
    refine ⟨?_, sm.ssc.iterate_increment_value _⟩
    have hunder := SmCall.computesUnder_of_counted hc
      (Machine.final SmCall.step sm (calls.take k))
    have hssc : (Machine.final SmCall.step sm (calls.take k)).ssc.increment =
        sscOfCall sm calls k := by
      rw [SmCall.final_eq, sscOfCall, List.take_succ_eq_append_getElem hk, List.countP_append,
        List.countP_singleton, if_pos hc, Function.iterate_succ_apply']
    rwa [hssc] at hunder
  · intro k hk hc
    exact SmCall.step_of_not_counted hc _
  · -- the earlier of the two calls has the smaller count, and the counts differ by less than a turn
    have hdistinct : ∀ j k : Nat, j < k → ∀ hk : k < calls.length, (calls[k]).counted = true →
        sscOfCall sm calls j ≠ sscOfCall sm calls k := by
      intro j k hjk hk hc
      have hcount := SmCall.countP_take_lt hjk hk hc
      have htotal : (calls.take (k + 1)).countP SmCall.counted ≤
          calls.countP SmCall.counted := (List.take_sublist _ _).countP_le
      exact sm.ssc.iterate_increment_ne hcount (by omega)
    intro j k hj hk hne hcj hck
    rcases Nat.lt_or_gt_of_ne hne with hjk | hkj
    · exact hdistinct j k hjk hk hck
    · exact (hdistinct k j hkj hj hcj).symm

/-- A session whose 64-bit counter is about to wrap. -/
def wrappingSm : MrtdSM :=
  ⟨SmCipher.plain, { Ssc.zero64 with value := 2 ^ 64 - 1, value_lt := by decide }⟩

/-- Two commands around a bare status word. -/
def wrappingCalls : List SmCall :=
  [.protect ⟨0x00, Ins.readBinary, 0x00, 0x00, none, 8⟩, .unprotect ⟨⟨0x69, 0x88⟩, none⟩,
    .protect ⟨0x00, Ins.readBinary, 0x00, 0x08, none, 8⟩]

/-- The counter wraps, and the two MACs are still computed under different values. -/
theorem ssc_never_repeats_wrapping :
    (sscOfCall wrappingSm wrappingCalls 0).value = 0 ∧
      (sscOfCall wrappingSm wrappingCalls 2).value = 1 ∧
      sscOfCall wrappingSm wrappingCalls 0 ≠ sscOfCall wrappingSm wrappingCalls 2 := by
  obtain ⟨hcounted, -, hdistinct⟩ :=
    ssc_never_repeats.2.2.2 wrappingSm wrappingCalls (by decide)
  have h0 := (hcounted 0 (by decide) rfl).2
  have h2 := (hcounted 2 (by decide) rfl).2
  refine ⟨h0.trans (by decide), h2.trans (by decide), ?_⟩
  exact hdistinct 0 2 (by decide) (by decide) (by decide) rfl rfl

end Dmrtd
