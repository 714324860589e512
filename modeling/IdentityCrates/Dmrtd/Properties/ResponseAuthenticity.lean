import IdentityCrates.Dmrtd.Proto.MrtdApi

/-!
# What an accepted response is vouched for

Once a secure messaging session is up, `transceive_cmd` hands a response to its caller only when
the chip has authenticated it.  The transport is unconstrained here: it may return any bytes of any
length, and the cipher may be any four functions.

An accepted response splits as `dataDo ‖ do99 ‖ do8e ‖ rest ‖ SW1 SW2` (`VouchedResponse`).  The
MAC in `do8e` is checked over `dataDo ‖ do99` under the counter value of this response; status and
data come from `do99` and `dataDo`; and `rest` and the outer status word can be replaced by
anything without changing what the caller receives.
-/

namespace Dmrtd

open Rust Octets

/-- A transport answer as `unprotect` takes it apart: an authenticated prefix, the `DO'8E'` whose
value is its MAC, and bytes that nobody vouches for. -/
structure VouchedResponse (cipher : SmCipher) (ssc : Ssc) (resp : Bytes) where
  dataDo : Bytes
  do99 : Bytes
  do8e : Bytes
  rest : Bytes
  outer : StatusWord
  dataTv : Option DecodedTv
  do99Tv : DecodedTv
  do8eTv : DecodedTv
  split : resp = dataDo ++ do99 ++ do8e ++ rest ++ outer.toBytes
  dataDo_parses : MrtdSM.IsDataDo dataDo dataTv
  do99_parses : MrtdSM.IsDo Sm.tagDo99 do99 do99Tv
  do8e_parses : MrtdSM.IsDo Sm.tagDo8E do8e do8eTv
  verifies : MrtdSM.Verifies cipher ssc (dataDo ++ do99) do8eTv.value

namespace VouchedResponse

variable {cipher : SmCipher} {ssc : Ssc} {resp : Bytes}

/-- The response that the authenticated prefix stands for. -/
structure Yields (v : VouchedResponse cipher ssc resp) (r : ResponseApdu) : Prop where
  status : StatusWord.fromBytes v.do99Tv.value 0 = .ok r.status
  data : MrtdSM.Decrypts cipher ssc v.dataTv r.data

/-- The same authenticated prefix in front of other bytes. -/
def withTail (v : VouchedResponse cipher ssc resp) (rest : Bytes) (outer : StatusWord) : Bytes :=
  v.dataDo ++ v.do99 ++ v.do8e ++ rest ++ outer.toBytes

end VouchedResponse

namespace MrtdSM

/-- Accepted bodies are vouched for. -/
lemma unprotectBody_vouched {sm : MrtdSM} {outer : StatusWord} {body : Bytes} {r : ResponseApdu}
    (h : sm.unprotectBody ⟨outer, some body⟩ = .ok r) :
    ∃ v : VouchedResponse sm.cipher sm.ssc (body ++ outer.toBytes), v.Yields r := by
  obtain ⟨dataTv, do99Tv, do8eTv, hparses, hmac, hdata, hstatus⟩ := unprotectBody_eq_ok.mp h
  obtain ⟨dataDo, do99, do8e, rest, rfl, hdo, h99, h8e⟩ := parses_iff.mp hparses
  have hcovered : (dataDo ++ do99 ++ do8e ++ rest).take (encodedLen dataTv + do99Tv.encodedLen) =
      dataDo ++ do99 := by
    rw [hdo.encodedLen_eq, h99.whole, List.append_assoc _ do8e]
    exact List.take_left' (by rw [List.length_append])
  rw [hcovered] at hmac
  exact ⟨⟨dataDo, do99, do8e, rest, outer, dataTv, do99Tv, do8eTv, rfl, hdo, h99, h8e, hmac⟩,
    ⟨hstatus, hdata⟩⟩

/-- Whatever follows the `DO'8E'`, the outer status word included, `unprotect` returns the same. -/
lemma unprotectBody_withTail {sm : MrtdSM} {resp : Bytes} {r : ResponseApdu}
    (v : VouchedResponse sm.cipher sm.ssc resp) (hv : v.Yields r) (rest : Bytes)
    (outer : StatusWord) :
    sm.unprotectBody ⟨outer, some (v.dataDo ++ v.do99 ++ v.do8e ++ rest)⟩ = .ok r := by
  refine unprotectBody_eq_ok.mpr ⟨v.dataTv, v.do99Tv, v.do8eTv, ?_, ?_, hv.data, hv.status⟩
  · exact parses_iff.mpr ⟨v.dataDo, v.do99, v.do8e, rest, rfl, v.dataDo_parses, v.do99_parses,
      v.do8e_parses⟩
  · have hcovered : (v.dataDo ++ v.do99 ++ v.do8e ++ rest).take
        (encodedLen v.dataTv + v.do99Tv.encodedLen) = v.dataDo ++ v.do99 := by
      rw [v.dataDo_parses.encodedLen_eq, v.do99_parses.whole, List.append_assoc _ v.do8e]
      exact List.take_left' (by rw [List.length_append])
    rw [hcovered]
    exact v.verifies

/-! ## Statuses that count as success

`StatusWord::is_success` is wider than the comparison in the bare-response branch of `unprotect`:
the branch refuses a bare 9000, the predicate also accepts 61xx. -/

/-- What a success handed up by `unprotect` owes its caller. -/
structure SuccessAuthenticated (sm : MrtdSM) (rapdu : ResponseApdu) : Prop where
  /-- Behind a success there is a body whose `DO'8E'` verified under the incremented counter. -/
  vouched : ∀ r sm', unprotect rapdu sm = (.ok r, sm') → r.status.isSuccess = true →
    ∃ body, rapdu.data = some body ∧ body ≠ [] ∧
      ∃ v : VouchedResponse sm.cipher sm.ssc.increment (body ++ rapdu.status.toBytes), v.Yields r
  /-- What the bare-response branch hands up is no success. -/
  bare : hasBody rapdu = false → ∀ r sm', unprotect rapdu sm = (.ok r, sm') →
    r.status.isSuccess = false

/-- A bare status word other than 9000 is handed up as it came. -/
lemma unprotect_bare_ok {sm : MrtdSM} {rapdu : ResponseApdu} (hbody : hasBody rapdu = false)
    (hstatus : rapdu.status ≠ StatusWord.success) : unprotect rapdu sm = (.ok rapdu, sm) := by
  rw [unprotect_apply_bare hbody, if_neg hstatus]

/-- A response that `unprotect` hands up without a body is the response it was given, and its
status is not 9000. -/
lemma eq_of_unprotect_bare {sm sm' : MrtdSM} {rapdu r : ResponseApdu}
    (hbody : hasBody rapdu = false) (h : unprotect rapdu sm = (.ok r, sm')) :
    r = rapdu ∧ rapdu.status ≠ StatusWord.success := by
  rw [unprotect_apply_bare hbody] at h
  split at h
  · simp at h
  · rename_i hstatus
    obtain ⟨hr, -⟩ := Prod.mk.inj h
    exact ⟨(Outcome.ok.inj hr).symm, hstatus⟩

/-- Handed-up responses with a body are vouched for under the incremented counter. -/
lemma unprotect_body_vouched {sm sm' : MrtdSM} {rapdu r : ResponseApdu}
    (hbody : hasBody rapdu = true) (h : unprotect rapdu sm = (.ok r, sm')) :
    ∃ body, rapdu.data = some body ∧ body ≠ [] ∧
      ∃ v : VouchedResponse sm.cipher sm.ssc.increment (body ++ rapdu.status.toBytes),
        v.Yields r := by
  obtain ⟨body, hdata, hne⟩ := hasBody_iff.mp hbody
  rw [unprotect_apply_body hbody, Prod.mk.injEq] at h
  obtain ⟨outer, data⟩ := rapdu
  subst hdata
  exact ⟨body, rfl, hne, unprotectBody_vouched h.1⟩

/-- **Authenticated success.**  A success that `unprotect` hands up is authenticated, unless the
response is a bare 61xx: that one passes for a success without a MAC. -/
theorem successAuthenticated_iff (sm : MrtdSM) (rapdu : ResponseApdu) :
    SuccessAuthenticated sm rapdu ↔
      (hasBody rapdu = false →
        rapdu.status.sw1 ≠ StatusWord.sw1SuccessWithRemainingBytes) := by
  constructor
  · intro h hbody hremaining
    -- a status word with SW1 = 61 is not 9000, so the bare branch hands it up
    have hstatus : rapdu.status ≠ StatusWord.success := by
      intro heq
      rw [heq] at hremaining
      exact absurd hremaining (by decide)
    have hsuccess : rapdu.status.isSuccess = true := StatusWord.isSuccess_iff.mpr (.inr hremaining)
    have hbare := h.bare hbody rapdu sm (unprotect_bare_ok hbody hstatus)
    rw [hsuccess] at hbare
    exact Bool.noConfusion hbare
  · intro hcond
    have hbare : hasBody rapdu = false → ∀ r sm', unprotect rapdu sm = (.ok r, sm') →
        r.status.isSuccess = false := by
      intro hbody r sm' hr
      obtain ⟨rfl, hstatus⟩ := eq_of_unprotect_bare hbody hr
      rw [Bool.eq_false_iff]
      intro hsuccess
      rcases StatusWord.isSuccess_iff.mp hsuccess with h9000 | h61
      · exact hstatus h9000
      · exact hcond hbody h61
    refine ⟨?_, hbare⟩
    intro r sm' hr hsuccess
    cases hbody : hasBody rapdu with
    | false =>
      rw [hbare hbody r sm' hr] at hsuccess
      exact Bool.noConfusion hsuccess
    | true => exact unprotect_body_vouched hbody hr

/-- A bare 6110 is handed up, and it counts as a success. -/
theorem bare_remaining_bytes_unauthenticated :
    unprotect ⟨⟨0x61, 0x10⟩, none⟩ ⟨SmCipher.plain, Ssc.zero64⟩ =
        (.ok ⟨⟨0x61, 0x10⟩, none⟩, ⟨SmCipher.plain, Ssc.zero64⟩) ∧
      StatusWord.isSuccess ⟨0x61, 0x10⟩ = true ∧
      ¬ SuccessAuthenticated ⟨SmCipher.plain, Ssc.zero64⟩ ⟨⟨0x61, 0x10⟩, none⟩ := by
  have hrun : unprotect ⟨⟨0x61, 0x10⟩, none⟩ ⟨SmCipher.plain, Ssc.zero64⟩ =
      (.ok ⟨⟨0x61, 0x10⟩, none⟩, ⟨SmCipher.plain, Ssc.zero64⟩) :=
    unprotect_bare_ok rfl (by decide)
  have hsuccess : StatusWord.isSuccess ⟨0x61, 0x10⟩ = true := by decide
  refine ⟨hrun, hsuccess, ?_⟩
  intro h
  obtain ⟨body, hdata, -⟩ := h.vouched _ _ hrun hsuccess
  simp at hdata

end MrtdSM

namespace MrtdApi

variable {τ : Type}

/-- `transceive_cmd` on a session, taken apart: the command is protected, the transport answers, the
answer parses and is unprotected, and its status is 9000. -/
lemma transceiveCmd_eq_ok [Transceiver τ] {cmd : CommandApdu} {t : τ} {sm : MrtdSM}
    {r : ResponseApdu} {api' : MrtdApi τ} :
    transceiveCmd cmd ⟨t, some sm⟩ = (.ok r, api') ↔
      ∃ wire resp t' rapdu sm', sm.advance.protectBody cmd = .ok wire ∧
        Transceiver.transceive wire.toBytes t = (.ok resp, t') ∧
        ResponseApdu.fromBytes resp = .ok rapdu ∧
        MrtdSM.unprotect rapdu sm.advance = (.ok r, sm') ∧ r.status = StatusWord.success ∧
        api' = ⟨t', some sm'⟩ := by
  simp only [transceiveCmd, Proc.bind_eq_ok]
  constructor
  · rintro ⟨wire, _, hprot, resp, _, htr, rapdu, _, hpar, r', _, hun, hst⟩
    obtain ⟨hwire, rfl⟩ := withSm_eq_ok.mp hprot
    obtain ⟨hresp, rfl⟩ := onTransceiver_eq_ok.mp htr
    rw [Proc.lift_apply, Prod.mk.injEq, Outcome.mapErr_eq_ok] at hpar
    obtain ⟨hrapdu, rfl⟩ := hpar
    obtain ⟨hr', rfl⟩ := withSm_eq_ok.mp hun
    split at hst
    · simp at hst
    · rename_i hok
      obtain ⟨hr, rfl⟩ := Prod.mk.inj hst
      obtain rfl := Outcome.ok.inj hr
      exact ⟨wire, resp, _, rapdu, _, hwire, Prod.ext hresp rfl, hrapdu, Prod.ext hr' rfl,
        not_not.mp hok, rfl⟩
  · rintro ⟨wire, resp, t', rapdu, sm', hprot, htr, hpar, hun, hst, rfl⟩
    have hp : withSm (MrtdSM.protect cmd) cmd ⟨t, some sm⟩ = (.ok wire, ⟨t, some sm.advance⟩) :=
      withSm_eq_ok.mpr ⟨hprot, rfl⟩
    have ht : onTransceiver (Transceiver.transceive wire.toBytes) ⟨t, some sm.advance⟩ =
        (.ok resp, ⟨t', some sm.advance⟩) :=
      onTransceiver_eq_ok.mpr ⟨congrArg Prod.fst htr, by rw [htr]⟩
    have hu : withSm (MrtdSM.unprotect rapdu) rapdu ⟨t', some sm.advance⟩ =
        (.ok r, ⟨t', some sm'⟩) :=
      withSm_eq_ok.mpr ⟨congrArg Prod.fst hun, by rw [hun]⟩
    refine ⟨wire, _, hp, resp, _, ht, rapdu, ⟨t', some sm.advance⟩, ?_, r, _, hu, ?_⟩
    · rw [Proc.lift_apply, hpar]
      rfl
    · rw [if_neg (not_not.mpr hst)]
      rfl

/-- **Response authenticity.**  Whatever the transport returned, an accepted response was vouched
for at the counter value reached by this exchange: its bytes split around a `DO'8E'` that verifies,
its status is the 9000 of the authenticated `DO'99'`, its data are those of the authenticated data
object, and any other bytes after the `DO'8E'`, with any other outer status word, would have been
accepted as the same response. -/
theorem transceiveCmd_authenticated [Transceiver τ] {cmd : CommandApdu} {t : τ} {sm : MrtdSM}
    {r : ResponseApdu} {api' : MrtdApi τ} (h : transceiveCmd cmd ⟨t, some sm⟩ = (.ok r, api')) :
    ∃ (wire : CommandApdu) (resp : Bytes) (t' : τ)
      (v : VouchedResponse sm.cipher sm.ssc.increment.increment resp),
      Transceiver.transceive wire.toBytes t = (.ok resp, t') ∧
      v.Yields r ∧ r.status = StatusWord.success ∧
      api' = ⟨t', some ⟨sm.cipher, sm.ssc.increment.increment⟩⟩ ∧
      ∀ (channel : Transceiver τ) (u u' : τ) (rest : Bytes) (outer : StatusWord),
        channel.transceive wire.toBytes u = (.ok (v.withTail rest outer), u') →
        @transceiveCmd τ channel cmd ⟨u, some sm⟩ =
          (.ok r, ⟨u', some ⟨sm.cipher, sm.ssc.increment.increment⟩⟩) := by
  obtain ⟨wire, resp, t', rapdu, sm', hwire, hresp, hrapdu, hun, hst, rfl⟩ :=
    transceiveCmd_eq_ok.mp h
  obtain ⟨body, hsplit, hdata⟩ := ResponseApdu.fromBytes_eq_ok hrapdu
  obtain ⟨outer, data⟩ := rapdu
  by_cases hbody : body = []
  · -- a bare status word is never accepted: a success is refused, anything else is not 9000
    rw [if_pos hbody] at hdata
    subst hdata
    rw [MrtdSM.unprotect_apply_bare rfl] at hun
    split at hun
    · simp at hun
    · rename_i hne
      obtain ⟨hr, -⟩ := Prod.mk.inj hun
      obtain rfl := Outcome.ok.inj hr
      exact absurd hst hne
  · rw [if_neg hbody] at hdata
    subst hdata
    rw [MrtdSM.unprotect_apply_body (by simpa using hbody), Prod.mk.injEq] at hun
    obtain ⟨hok, rfl⟩ := hun
    obtain ⟨v, hv⟩ := MrtdSM.unprotectBody_vouched hok
    subst hsplit
    refine ⟨wire, _, t', v, hresp, hv, hst, rfl, ?_⟩
    intro channel u u' rest outer' hchannel
    have htail := MrtdSM.unprotectBody_withTail v hv rest outer'
    have hne : v.dataDo ++ v.do99 ++ v.do8e ++ rest ≠ [] := by simp [v.do99_parses.ne_nil]
    have hbody' : MrtdSM.hasBody ⟨outer', some (v.dataDo ++ v.do99 ++ v.do8e ++ rest)⟩ = true :=
      MrtdSM.hasBody_iff.mpr ⟨_, rfl, hne⟩
    have hpar := ResponseApdu.fromBytes_append (v.dataDo ++ v.do99 ++ v.do8e ++ rest) outer'
    rw [if_neg hne] at hpar
    refine transceiveCmd_eq_ok.mpr ⟨wire, _, u', _, sm.advance.advance, hwire, hchannel, hpar, ?_,
      hst, rfl⟩
    rw [MrtdSM.unprotect_apply_body hbody']
    exact Prod.ext htail rfl

/-- A `DO'99'` with 9000 and a `DO'8E'` that verifies at counter value two, under an outer 6A82. -/
def answeredSuccess : Bytes :=
  [0x99, 0x02, 0x90, 0x00, 0x8E, 0x08, 0, 0, 0, 0, 0, 0, 0, 2, 0x6A, 0x82]

theorem transceiveCmd_authenticated_plain :
    ∃ (wire : CommandApdu) (resp : Bytes)
      (v : VouchedResponse SmCipher.plain Ssc.zero64.increment.increment resp),
      (Transceiver.constant answeredSuccess).transceive wire.toBytes () = (.ok resp, ()) ∧
        v.Yields ⟨StatusWord.success, none⟩ := by
  obtain ⟨wire, resp, t', v, htr, hv, -⟩ :=
    @transceiveCmd_authenticated Unit (Transceiver.constant answeredSuccess)
      ⟨0x00, Ins.selectFile, 0x00, 0x0C, some [0x3F, 0x00], 0⟩ () ⟨SmCipher.plain, Ssc.zero64⟩
      ⟨StatusWord.success, none⟩
      ⟨(), some ⟨SmCipher.plain, Ssc.zero64.increment.increment⟩⟩ rfl
  exact ⟨wire, resp, v, htr, hv⟩

end MrtdApi

end Dmrtd
