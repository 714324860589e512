import IdentityCrates.Dmrtd.Passport

/-!
# The cached selection and the chip's

A `Passport` notes which dedicated file it selected last and does not select it again.  The note is
right as long as it says what the last SELECT was for that the chip executed: then every later read
by short file identifier reads in the file it means to.

The chip may execute a command, reject it, or never see it, and the answer to a command it executed
may be lost or garbled on the way.  `Link` is a transport of any such behaviour, command by command,
together with what the chip has made of it: the file selected by the last SELECT that was executed,
and every command that was executed with the file selected at that time.

The note is changed only when the answer to a SELECT arrives.  So it goes stale when the chip
executes a SELECT while the other file is noted and the answer does not arrive intact
(`Passport.stale_after_lost_answer`): unlike `api_mut` and `start_session_pace`, the two selecting
methods do not drop the note before the chip's selection is in doubt.  In every run without that
event the note is right and all reads are in the file they mean (`Passport.df_cache_coherent`).
-/

namespace Dmrtd

open Rust Octets

/-! ## Refusals -/

namespace ResponseApdu

/-- The status word inside the `DO'99'` of a protected response. -/
def protectedStatus (rapdu : ResponseApdu) : Outcome SmError StatusWord := do
  let dataDo ← MrtdSM.parseDataDo rapdu
  let do99 ← MrtdSM.parseDo99 rapdu (MrtdSM.encodedLen dataDo)
  (StatusWord.fromBytes do99.value 0).mapErr fun e => ⟨s!"Invalid SW in DO'99': {e.text}"⟩

/-- The response reports something else than success, in its trailer and in its `DO'99'` if it has
one. -/
def refuses (response : Bytes) : Bool :=
  match fromBytes response with
  | .ok rapdu =>
    decide (rapdu.status ≠ StatusWord.success) &&
      decide (rapdu.protectedStatus ≠ .ok StatusWord.success)
  | _ => true

/-- What secure messaging hands up as the status is what the response reports. -/
lemma status_ne_success_of_refuses {response : Bytes} {rapdu r : ResponseApdu} {sm : MrtdSM}
    (hrefuses : refuses response = true) (hparse : fromBytes response = .ok rapdu)
    (hopen : (MrtdSM.unprotect rapdu sm).1 = .ok r) : r.status ≠ StatusWord.success := by
  rw [refuses, hparse] at hrefuses
  obtain ⟨houter, hinner⟩ := Bool.and_eq_true_iff.mp hrefuses
  have houter := of_decide_eq_true houter
  have hinner := of_decide_eq_true hinner
  by_cases hbody : MrtdSM.hasBody rapdu = true
  · rw [MrtdSM.unprotect_apply_body hbody] at hopen
    obtain ⟨dataDo, hdata, hopen⟩ := Outcome.bind_eq_ok.mp hopen
    obtain ⟨do99, h99, hopen⟩ := Outcome.bind_eq_ok.mp hopen
    obtain ⟨do8e, -, hopen⟩ := Outcome.bind_eq_ok.mp hopen
    obtain ⟨body, -, hopen⟩ := Outcome.bind_eq_ok.mp hopen
    obtain ⟨k, -, hopen⟩ := Outcome.bind_eq_ok.mp hopen
    obtain ⟨cc, -, hopen⟩ := Outcome.bind_eq_ok.mp hopen
    split at hopen
    · simp at hopen
    obtain ⟨data, -, hopen⟩ := Outcome.bind_eq_ok.mp hopen
    obtain ⟨status, hstatus, hopen⟩ := Outcome.bind_eq_ok.mp hopen
    rw [Outcome.pure_eq, Outcome.ok.injEq] at hopen
    rw [← hopen]
    intro hsuccess
    refine hinner ?_
    rw [protectedStatus, hdata, Outcome.ok_bind, MrtdSM.encodedLen, h99, Outcome.ok_bind, hstatus]
    exact congrArg Outcome.ok hsuccess
  · rw [MrtdSM.unprotect_apply_bare (Bool.eq_false_iff.mpr hbody), if_neg houter,
      Outcome.ok.injEq] at hopen
    rw [← hopen]
    exact houter

end ResponseApdu

/-- A response of the chip to a command that it does not execute. -/
structure Refusal where
  response : Bytes
  refuses : ResponseApdu.refuses response = true

/-! ## The link to the chip -/

/-- What becomes of one command. -/
inductive Delivery where
  /-- The chip executes it, and this arrives as the answer, intact or garbled. -/
  | executed (response : Bytes)
  /-- The chip executes it, and the answer is lost. -/
  | lost (e : TransceiveError)
  /-- The chip answers without executing it. -/
  | rejected (refusal : Refusal)
  /-- The chip never sees it. -/
  | notDelivered (e : TransceiveError)

/-- The file that a SELECT is for, as its header says: secure messaging leaves the header in the
clear, and the API selects by file id only the master file and by name only the application. -/
def SelectedDf.ofWire : Bytes → SelectedDf
  | _ :: ins :: p1 :: _ =>
    if ins = Ins.selectFile then
      if p1 = SelectFileP1.byId then .mf
      else if p1 = SelectFileP1.byDfName then .df1
      else .none
    else .none
  | _ => .none

/-- The transport and the chip behind it: the file selected by the last SELECT that was executed,
every command that was executed with the file selected when it was, and what becomes of the commands
to come. -/
structure Link where
  selected : SelectedDf
  served : List (Bytes × SelectedDf)
  script : List Delivery

namespace Link

/-- The chip executes a command. -/
def execute (apdu : Bytes) (link : Link) : Link :=
  { link with
    selected :=
      if SelectedDf.ofWire apdu = .none then link.selected else SelectedDf.ofWire apdu
    served := link.served ++ [(apdu, link.selected)] }

instance : Transceiver Link where
  transceive apdu := fun link =>
    match link.script with
    | [] => (.err ⟨"no connection"⟩, link)
    | .executed response :: rest => (.ok response, execute apdu { link with script := rest })
    | .lost e :: rest => (.err e, execute apdu { link with script := rest })
    | .rejected refusal :: rest => (.ok refusal.response, { link with script := rest })
    | .notDelivered e :: rest => (.err e, { link with script := rest })

end Link

/-! ## Commands that do not select -/

namespace MrtdApi

/-- The selection stays, and what is executed meanwhile is executed under it. -/
structure Framed (api api' : MrtdApi Link) : Prop where
  selected : api'.transceiver.selected = api.transceiver.selected
  served : ∃ new, api'.transceiver.served = api.transceiver.served ++ new ∧
    ∀ entry ∈ new, entry.2 = api.transceiver.selected

lemma Framed.refl (api : MrtdApi Link) : Framed api api := ⟨rfl, [], by simp, by simp⟩

lemma Framed.trans ⦃api₁ api₂ api₃ : MrtdApi Link⦄ (h : Framed api₁ api₂) (h' : Framed api₂ api₃) :
    Framed api₁ api₃ := by
  obtain ⟨hsel, new, hserved, hnew⟩ := h
  obtain ⟨hsel', new', hserved', hnew'⟩ := h'
  refine ⟨hsel'.trans hsel, new ++ new', ?_, ?_⟩
  · rw [hserved', hserved, List.append_assoc]
  · intro entry hentry
    rcases List.mem_append.mp hentry with hentry | hentry
    · exact hnew entry hentry
    · exact (hnew' entry hentry).trans hsel

/-- Everything that happens to the secure messaging session alone. -/
lemma framed_of_transceiver_eq {api api' : MrtdApi Link}
    (h : api'.transceiver = api.transceiver) : Framed api api' :=
  ⟨by rw [h], [], by simp [h], by simp⟩

lemma withSm_transceiver {α : Type} (m : Proc MrtdSM SmError α) (plain : α) (api : MrtdApi Link) :
    (withSm m plain api).2.transceiver = api.transceiver := by
  obtain ⟨t, _ | sm⟩ := api
  · rfl
  · rfl

lemma withSm_framed {α : Type} (m : Proc MrtdSM SmError α) (plain : α) :
    (withSm m plain : Proc (MrtdApi Link) MrtdApiError α).Preserves Framed :=
  fun api => framed_of_transceiver_eq (withSm_transceiver m plain api)

/-- A command that is no SELECT leaves the selection alone, whatever becomes of it. -/
lemma exchange_framed {apdu : Bytes} (h : SelectedDf.ofWire apdu = .none) :
    (exchange apdu : Proc (MrtdApi Link) MrtdApiError Bytes).Preserves Framed := by
  rintro ⟨⟨selected, served, script⟩, sm⟩
  have hexecuted : ∀ rest, Framed ⟨⟨selected, served, script⟩, sm⟩
      ⟨Link.execute apdu ⟨selected, served, rest⟩, sm⟩ := fun rest =>
    ⟨if_pos h, [(apdu, selected)], rfl, by simp⟩
  cases script with
  | nil => exact Framed.refl _
  | cons delivery rest =>
    cases delivery with
    | executed response => exact hexecuted rest
    | lost e => exact hexecuted rest
    | rejected refusal => exact ⟨rfl, [], by simp [exchange, onTransceiver, Transceiver.transceive],
        by simp⟩
    | notDelivered e => exact ⟨rfl, [], by simp [exchange, onTransceiver, Transceiver.transceive],
        by simp⟩

end MrtdApi

lemma ofWire_toBytes (cmd : CommandApdu) :
    SelectedDf.ofWire cmd.toBytes = SelectedDf.ofWire cmd.rawHeader := by
  by_cases h : (!cmd.body.isEmpty) = true
  · simp only [CommandApdu.toBytes, h, if_true]
    rfl
  · simp only [CommandApdu.toBytes, h]
    rfl

lemma ofWire_of_ins {cmd : CommandApdu} (h : cmd.ins ≠ Ins.selectFile) :
    SelectedDf.ofWire cmd.toBytes = .none := by
  rw [ofWire_toBytes]
  exact if_neg h

namespace MrtdApi

/-- What goes over the wire keeps the instruction and the first parameter of the command. -/
lemma withSm_protect_header {cmd wire : CommandApdu} {api api' : MrtdApi Link}
    (h : withSm (MrtdSM.protect cmd) cmd api = (.ok wire, api')) :
    wire.ins = cmd.ins ∧ wire.p1 = cmd.p1 ∧ api'.transceiver = api.transceiver := by
  obtain ⟨t, _ | sm⟩ := api
  · rw [withSm_none, Prod.mk.injEq, Outcome.ok.injEq] at h
    obtain ⟨rfl, rfl⟩ := h
    exact ⟨rfl, rfl, rfl⟩
  · obtain ⟨hwire, rfl⟩ := withSm_eq_ok.mp h
    rw [MrtdSM.protect_apply] at hwire
    obtain ⟨_, _, _, _, _, _, -, -, -, -, -, -, rfl⟩ := MrtdSM.protectBody_eq_ok.mp hwire
    exact ⟨rfl, rfl, rfl⟩

/-- The end of `transceive_cmd`: what it makes of the bytes that arrived. -/
def openResponse {τ : Type} (respBytes : Bytes) : Proc (MrtdApi τ) MrtdApiError ResponseApdu := do
  let rapdu ← Proc.lift ((ResponseApdu.fromBytes respBytes).mapErr fun e =>
    MrtdApiError.response e.text)
  let unwrapped ← withSm (MrtdSM.unprotect rapdu) rapdu
  if unwrapped.status ≠ StatusWord.success then Proc.fail (.chipStatus unwrapped.status)
  else return unwrapped

lemma transceiveCmd_eq {τ : Type} [Transceiver τ] (cmd : CommandApdu) :
    (transceiveCmd cmd : Proc (MrtdApi τ) MrtdApiError ResponseApdu) =
      withSm (MrtdSM.protect cmd) cmd >>= fun wire => exchange wire.toBytes >>= openResponse :=
  rfl

/-- Nothing goes over the wire once the response has arrived. -/
lemma openResponse_transceiver (respBytes : Bytes) (api : MrtdApi Link) :
    (openResponse respBytes api).2.transceiver = api.transceiver := by
  have htrans : ∀ ⦃api₁ api₂ api₃ : MrtdApi Link⦄, api₂.transceiver = api₁.transceiver →
      api₃.transceiver = api₂.transceiver → api₃.transceiver = api₁.transceiver :=
    fun _ _ _ h h' => h'.trans h
  have hpreserves : (openResponse respBytes : Proc (MrtdApi Link) MrtdApiError
      ResponseApdu).Preserves fun api api' => api'.transceiver = api.transceiver := by
    refine Proc.Preserves.bind htrans (fun _ => rfl) fun rapdu => ?_
    refine Proc.Preserves.bind htrans (withSm_transceiver _ _) fun unwrapped => ?_
    split
    · exact fun _ => rfl
    · exact fun _ => rfl
  exact hpreserves api

lemma openResponse_framed (respBytes : Bytes) :
    (openResponse respBytes : Proc (MrtdApi Link) MrtdApiError ResponseApdu).Preserves Framed :=
  fun api => framed_of_transceiver_eq (openResponse_transceiver respBytes api)

lemma send_framed {cla ins p1 p2 : UInt8} {data : Option Bytes} {ne : Nat}
    (h : ins ≠ Ins.selectFile) :
    (send cla ins p1 p2 data ne : Proc (MrtdApi Link) MrtdApiError ResponseApdu).Preserves
      Framed := by
  refine (Proc.preserves_lift Framed.refl _).bind_of Framed.trans fun api cmd api' hcmd => ?_
  obtain ⟨rfl, -⟩ := CommandApdu.new_eq_ok.mp (Outcome.mapErr_eq_ok.mp (Prod.mk.inj hcmd).1)
  have hframed : (transceiveCmd ⟨cla, ins, p1, p2, data, ne⟩ :
      Proc (MrtdApi Link) MrtdApiError ResponseApdu).Preserves Framed := by
    rw [transceiveCmd_eq]
    refine (withSm_framed _ _).bind_of Framed.trans fun api wire api' hwire => ?_
    have hins : wire.ins ≠ Ins.selectFile := (withSm_protect_header hwire).1 ▸ h
    exact (exchange_framed (ofWire_of_ins hins)).bind Framed.trans openResponse_framed api'
  exact hframed api'

lemma readBinaryBySfi_framed (sfi offset : UInt8) (ne : Nat) :
    (readBinaryBySfi sfi offset ne : Proc (MrtdApi Link) MrtdApiError Bytes).Preserves Framed :=
  (send_framed (by decide)).bind Framed.trans fun _ => Proc.preserves_pure Framed.refl _

lemma readChunk_framed (totalLen offset : Nat) :
    (readChunk totalLen offset : Proc (MrtdApi Link) MrtdApiError Bytes).Preserves Framed := by
  unfold readChunk
  split
  · unfold readBinary
    split
    · exact Proc.preserves_fail Framed.refl _
    · exact (send_framed (by decide)).bind Framed.trans fun _ => Proc.preserves_pure Framed.refl _
  · refine (Proc.preserves_lift Framed.refl _).bind Framed.trans fun offsetDo => ?_
    exact (send_framed (by decide)).bind Framed.trans fun _ => Proc.preserves_lift Framed.refl _

lemma readTail_framed (totalLen : Nat) (data : Bytes) :
    (readTail totalLen data : Proc (MrtdApi Link) MrtdApiError Bytes).Preserves Framed := by
  intro api
  fun_induction readTail totalLen data api with
  | case1 data api hlt api' hchunk =>
    have hframed := readChunk_framed totalLen data.length api
    rwa [hchunk] at hframed
  | case2 data api hlt b chunk api' hchunk ih =>
    have hframed := readChunk_framed totalLen data.length api
    rw [hchunk] at hframed
    exact hframed.trans ih
  | case3 data api hlt e api' hchunk =>
    have hframed := readChunk_framed totalLen data.length api
    rwa [hchunk] at hframed
  | case4 data api hlt api' hchunk =>
    have hframed := readChunk_framed totalLen data.length api
    rwa [hchunk] at hframed
  | case5 data api hge => exact Framed.refl api

lemma readFileBySfi_framed (sfi : UInt8) :
    (readFileBySfi sfi : Proc (MrtdApi Link) MrtdApiError Bytes).Preserves Framed := by
  refine (readBinaryBySfi_framed _ _ _).bind Framed.trans fun first => ?_
  split
  · exact Proc.preserves_fail Framed.refl _
  · refine (Proc.preserves_lift Framed.refl _).bind Framed.trans fun decoded => ?_
    dsimp only
    split
    · exact Proc.preserves_fail Framed.refl _
    · exact (readTail_framed _ _).bind Framed.trans fun _ => Proc.preserves_pure Framed.refl _

lemma activeAuthenticate_framed (challenge : Bytes) :
    (activeAuthenticate challenge : Proc (MrtdApi Link) MrtdApiError Bytes).Preserves Framed := by
  unfold activeAuthenticate
  split
  · exact Proc.preserves_fail Framed.refl _
  · exact (send_framed (by decide)).bind Framed.trans fun _ => Proc.preserves_lift Framed.refl _

end MrtdApi

/-! ### The handshakes do not select -/

namespace BacSession

variable {P : Primitives}

lemma ofWire_nextRequest {self session : BacSession} {apdu : Bytes}
    (h : nextRequest P self = (.ok (.inl apdu), session)) : SelectedDf.ofWire apdu = .none := by
  obtain ⟨action, session', hnext, h⟩ := Proc.bind_eq_ok.mp h
  cases action with
  | done sm => simp at h
  | sendApdu apdu' =>
    obtain rfl : apdu' = apdu := Sum.inl.inj (Outcome.ok.inj (Prod.mk.inj h).1)
    obtain ⟨key, rndIfd, kifd, state⟩ := self
    simp only [next, Proc.get_bind_apply] at hnext
    cases state with
    | start =>
      obtain ⟨cmd, hcmd, hnext⟩ := Proc.lift_bind_eq_ok.mp hnext
      obtain ⟨rfl, -⟩ := CommandApdu.new_eq_ok.mp (Outcome.mapErr_eq_ok.mp hcmd)
      obtain rfl := BacAction.sendApdu.inj (Outcome.ok.inj (Prod.mk.inj hnext).1)
      rfl
    | readyForExternalAuth rndIcc =>
      obtain ⟨cmd, hcmd, hnext⟩ := Proc.lift_bind_eq_ok.mp hnext
      obtain ⟨s, -, hcmd⟩ := Outcome.bind_eq_ok.mp hcmd
      obtain ⟨eIfd, -, hcmd⟩ := Outcome.bind_eq_ok.mp hcmd
      obtain ⟨mIfd, -, hcmd⟩ := Outcome.bind_eq_ok.mp hcmd
      obtain ⟨data, -, hcmd⟩ := Outcome.bind_eq_ok.mp hcmd
      obtain ⟨rfl, -⟩ := CommandApdu.new_eq_ok.mp (Outcome.mapErr_eq_ok.mp hcmd)
      obtain rfl := BacAction.sendApdu.inj (Outcome.ok.inj (Prod.mk.inj hnext).1)
      exact ofWire_of_ins (show Ins.externalAuthenticate ≠ Ins.selectFile by decide)
    | completed slot => cases slot <;> simp at hnext
    | _ => simp at hnext

end BacSession

namespace PaceSession

variable {P : Primitives} {κ : Type} [AccessKey κ]

lemma ofWire_generalAuthenticate {cla : UInt8} {data : Bytes} {ne : Nat} {cmd : CommandApdu}
    (h : generalAuthenticate cla data ne = .ok cmd) : SelectedDf.ofWire cmd.toBytes = .none := by
  obtain ⟨rfl, -⟩ := CommandApdu.new_eq_ok.mp (Outcome.mapErr_eq_ok.mp h)
  exact ofWire_of_ins (show Ins.generalAuthenticate ≠ Ins.selectFile by decide)

lemma ofWire_nextRequest {self session : PaceSession P κ} {apdu : Bytes}
    (h : nextRequest P κ self = (.ok (.inl apdu), session)) :
    SelectedDf.ofWire apdu = .none := by
  obtain ⟨action, session', hnext, h⟩ := Proc.bind_eq_ok.mp h
  cases action with
  | done sm => simp at h
  | sendApdu apdu' =>
    obtain rfl : apdu' = apdu := Sum.inl.inj (Outcome.ok.inj (Prod.mk.inj h).1)
    cases requested_of_next hnext with
    | selects hstate hcmd =>
      obtain ⟨data, -, hcmd⟩ := Outcome.bind_eq_ok.mp hcmd
      obtain ⟨rfl, -⟩ := CommandApdu.new_eq_ok.mp (Outcome.mapErr_eq_ok.mp hcmd)
      exact ofWire_of_ins (show Ins.manageSecurityEnvironment ≠ Ins.selectFile by decide)
    | asksNonce hstate hcmd =>
      obtain ⟨data, -, hcmd⟩ := Outcome.bind_eq_ok.mp hcmd
      exact ofWire_generalAuthenticate hcmd
    | sendsMapping hstate hdrawn hcmd =>
      obtain ⟨pub, -, hcmd⟩ := Outcome.bind_eq_ok.mp hcmd
      obtain ⟨data, -, hcmd⟩ := Outcome.bind_eq_ok.mp hcmd
      exact ofWire_generalAuthenticate hcmd
    | sendsKey hstate hcmd =>
      obtain ⟨pub, -, hcmd⟩ := Outcome.bind_eq_ok.mp hcmd
      obtain ⟨data, -, hcmd⟩ := Outcome.bind_eq_ok.mp hcmd
      exact ofWire_generalAuthenticate hcmd
    | sendsToken hstate hcmd =>
      obtain ⟨tIfd, -, hcmd⟩ := Outcome.bind_eq_ok.mp hcmd
      obtain ⟨data, -, hcmd⟩ := Outcome.bind_eq_ok.mp hcmd
      exact ofWire_generalAuthenticate hcmd
    | failed _ _ hresult => cases hresult
    | drewAndFailed _ _ hresult => cases hresult

end PaceSession

namespace MrtdApi

lemma setSm_framed (sm : MrtdSM) :
    (Proc.modify fun api => { api with sm := some sm } :
      Proc (MrtdApi Link) MrtdApiError Unit).Preserves Framed :=
  fun _ => framed_of_transceiver_eq rfl

lemma initSessionViaBac_framed (P : Primitives) (key : DBAKey) (entropy : Entropy) :
    (initSessionViaBac P key entropy : Proc (MrtdApi Link) MrtdApiError Unit).Preserves Framed := by
  refine (Proc.preserves_lift Framed.refl _).bind Framed.trans fun session => ?_
  refine ((bacParty P).drive_preserves Framed.refl Framed.trans ?_ _).bind Framed.trans
    setSm_framed
  intro s apdu s₁ hnext
  exact exchange_framed (BacSession.ofWire_nextRequest hnext)

lemma initSessionViaPace_framed (P : Primitives) {κ : Type} [AccessKey κ] (accessKey : κ)
    (efCardAccess : EfCardAccess) (entropy : Entropy) :
    (initSessionViaPace P accessKey efCardAccess entropy :
      Proc (MrtdApi Link) MrtdApiError Unit).Preserves Framed := by
  refine (Proc.preserves_lift Framed.refl _).bind Framed.trans fun info => ?_
  refine (Proc.preserves_lift Framed.refl _).bind Framed.trans fun parameterId => ?_
  refine (Proc.preserves_lift Framed.refl _).bind Framed.trans fun session => ?_
  refine ((paceParty P κ).drive_preserves Framed.refl Framed.trans ?_ _).bind Framed.trans
    setSm_framed
  intro s apdu s₁ hnext
  exact exchange_framed (PaceSession.ofWire_nextRequest hnext)

/-! ## SELECT -/

/-- The SELECT command for a file. -/
def selectCommand : SelectedDf → CommandApdu
  | .mf => ⟨Cla.noSm, Ins.selectFile, SelectFileP1.byId, SelectFileP2.noResponseData,
      some [0x3F, 0x00], 0⟩
  | _ => ⟨Cla.noSm, Ins.selectFile, SelectFileP1.byDfName, SelectFileP2.noResponseData,
      some aid, 0⟩

/-- Should the chip execute the SELECT of `df` now, its answer arrives and is accepted as a success:
nothing is lost, and what arrives is opened by the session as it stands after protecting the
command. -/
def answersSelect (df : SelectedDf) (api : MrtdApi Link) : Bool :=
  match withSm (MrtdSM.protect (selectCommand df)) (selectCommand df) api with
  | (.ok _, api') =>
    match api.transceiver.script with
    | .executed response :: _ => (openResponse response api').1.isOk
    | .lost _ :: _ => false
    | _ => true
  | _ => true

/-- What comes of the bytes of a response does not depend on the transport. -/
lemma openResponse_fst {τ τ' : Type} (respBytes : Bytes) (t : τ) (t' : τ') (sm : Option MrtdSM) :
    (openResponse respBytes ⟨t, sm⟩).1 = (openResponse respBytes ⟨t', sm⟩).1 := by
  unfold openResponse
  cases ResponseApdu.fromBytes respBytes with
  | err e => rfl
  | panic => rfl
  | ok rapdu =>
    rw [Outcome.mapErr_ok, Proc.lift_ok_bind_apply, Proc.lift_ok_bind_apply, Proc.bind_apply,
      Proc.bind_apply]
    cases sm with
    | none =>
      rw [withSm_none, withSm_none]
      dsimp only
      split <;> rfl
    | some sm =>
      rw [withSm_some, withSm_some]
      cases (MrtdSM.unprotect rapdu sm).1 with
      | ok r =>
        rw [Outcome.mapErr_ok]
        dsimp only
        split <;> rfl
      | err e => rfl
      | panic => rfl

/-- A refusal is never opened as a success. -/
lemma openResponse_refusal (refusal : Refusal) (api : MrtdApi Link) :
    (openResponse refusal.response api).1.isOk = false := by
  rw [Bool.eq_false_iff, ne_eq, Outcome.isOk_iff]
  rintro ⟨r, h⟩
  have h : openResponse refusal.response api = (.ok r, (openResponse refusal.response api).2) :=
    Prod.ext h rfl
  obtain ⟨rapdu, hparse, h⟩ := Proc.lift_bind_eq_ok.mp h
  have hparse := Outcome.mapErr_eq_ok.mp hparse
  obtain ⟨unwrapped, api', hopen, h⟩ := Proc.bind_eq_ok.mp h
  split at h
  · simp at h
  rename_i hstatus
  rw [not_not] at hstatus
  obtain ⟨t, _ | sm⟩ := api
  · rw [withSm_none, Prod.mk.injEq, Outcome.ok.injEq] at hopen
    have hrefuses := refusal.refuses
    rw [ResponseApdu.refuses, hparse, hopen.1] at hrefuses
    simp [hstatus] at hrefuses
  · exact ResponseApdu.status_ne_success_of_refuses refusal.refuses hparse
      (withSm_eq_ok.mp hopen).1 hstatus

/-- What the chip has been made to do by a SELECT of `df` that it has executed: nothing else. -/
structure Selected (df : SelectedDf) (api api' : MrtdApi Link) : Prop where
  selected : api'.transceiver.selected = df
  served : ∃ wire, SelectedDf.ofWire wire = df ∧
    api'.transceiver.served = api.transceiver.served ++ [(wire, api.transceiver.selected)]

/-- What a SELECT may come to, with whether it has succeeded for the terminal. -/
inductive SelectOutcome (df : SelectedDf) (api : MrtdApi Link) : Bool → MrtdApi Link → Prop
  /-- Executed and acknowledged. -/
  | acknowledged {api' : MrtdApi Link} (h : Selected df api api') : SelectOutcome df api true api'
  /-- Not executed, and the terminal knows it. -/
  | refused {api' : MrtdApi Link} (hselected : api'.transceiver.selected = api.transceiver.selected)
      (hserved : api'.transceiver.served = api.transceiver.served) : SelectOutcome df api false api'
  /-- Executed, and the terminal does not know it. -/
  | unanswered {api' : MrtdApi Link} (h : Selected df api api')
      (hanswers : answersSelect df api = false) : SelectOutcome df api false api'

lemma ofWire_select {df : SelectedDf} (hdf : df ≠ .none) {wire : CommandApdu}
    (hins : wire.ins = (selectCommand df).ins) (hp1 : wire.p1 = (selectCommand df).p1) :
    SelectedDf.ofWire wire.toBytes = df := by
  have hheader : wire.rawHeader = [wire.cla, wire.ins, wire.p1, wire.p2] := rfl
  rw [ofWire_toBytes, hheader, hins, hp1]
  cases df with
  | none => exact absurd rfl hdf
  | mf => rfl
  | df1 => rfl

/-- A SELECT comes to one of the three. -/
lemma transceiveCmd_select {df : SelectedDf} (hdf : df ≠ .none) (api : MrtdApi Link) :
    SelectOutcome df api (transceiveCmd (selectCommand df) api).1.isOk
      (transceiveCmd (selectCommand df) api).2 := by
  rw [transceiveCmd_eq]
  have hsession := withSm_transceiver (MrtdSM.protect (selectCommand df)) (selectCommand df) api
  rcases hprotect : withSm (MrtdSM.protect (selectCommand df)) (selectCommand df) api with
    ⟨wire | e | _, api₁⟩
  · obtain ⟨hins, hp1, -⟩ := withSm_protect_header hprotect
    have hwire := ofWire_select hdf hins hp1
    rw [Proc.bind_apply_ok hprotect]
    rw [hprotect] at hsession
    obtain ⟨⟨selected, served, script⟩, sm⟩ := api
    obtain ⟨t, sm₁⟩ := api₁
    obtain rfl : t = ⟨selected, served, script⟩ := hsession
    have hselected : ∀ rest sm₂, Selected df ⟨⟨selected, served, script⟩, sm⟩
        ⟨Link.execute wire.toBytes ⟨selected, served, rest⟩, sm₂⟩ := by
      intro rest sm₂
      refine ⟨?_, wire.toBytes, hwire, rfl⟩
      show (if SelectedDf.ofWire wire.toBytes = .none then selected
        else SelectedDf.ofWire wire.toBytes) = df
      rw [hwire, if_neg hdf]
    cases script with
    | nil => exact .refused rfl rfl
    | cons delivery rest =>
      cases delivery with
      | executed response =>
        have hrun : (exchange wire.toBytes >>= openResponse)
            ⟨⟨selected, served, .executed response :: rest⟩, sm₁⟩ =
            openResponse response ⟨Link.execute wire.toBytes ⟨selected, served, rest⟩, sm₁⟩ := rfl
        have hafter : Selected df ⟨⟨selected, served, .executed response :: rest⟩, sm⟩
            (openResponse response
              ⟨Link.execute wire.toBytes ⟨selected, served, rest⟩, sm₁⟩).2 := by
          obtain ⟨hsel, hserved⟩ := hselected rest sm₁
          refine ⟨?_, ?_⟩
          · rw [openResponse_transceiver]
            exact hsel
          · rw [openResponse_transceiver]
            exact hserved
        have hanswers : answersSelect df ⟨⟨selected, served, .executed response :: rest⟩, sm⟩ =
            (openResponse response
              ⟨Link.execute wire.toBytes ⟨selected, served, rest⟩, sm₁⟩).1.isOk := by
          rw [answersSelect, hprotect, openResponse_fst]
        rw [hrun]
        generalize openResponse response
          (⟨Link.execute wire.toBytes ⟨selected, served, rest⟩, sm₁⟩ : MrtdApi Link) = result
          at hafter hanswers ⊢
        cases hok : result.1.isOk with
        | true => exact SelectOutcome.acknowledged hafter
        | false => exact SelectOutcome.unanswered hafter (hanswers.trans hok)
      | lost e => exact .unanswered (hselected rest sm₁) (by rw [answersSelect, hprotect])
      | rejected refusal =>
        have hrun : (exchange wire.toBytes >>= openResponse)
            (⟨⟨selected, served, .rejected refusal :: rest⟩, sm₁⟩ : MrtdApi Link) =
            openResponse refusal.response ⟨⟨selected, served, rest⟩, sm₁⟩ := rfl
        rw [hrun, openResponse_refusal]
        refine .refused ?_ ?_
        · rw [openResponse_transceiver]
        · rw [openResponse_transceiver]
      | notDelivered e => exact .refused rfl rfl
  · rw [Proc.bind_apply_err hprotect]
    rw [hprotect] at hsession
    exact .refused (congrArg Link.selected hsession) (congrArg Link.served hsession)
  · rw [Proc.bind_apply_panic hprotect]
    rw [hprotect] at hsession
    exact .refused (congrArg Link.selected hsession) (congrArg Link.served hsession)

end MrtdApi

/-! ## The operations of a passport -/

/-- A call of one method of `Passport`, with what its caller passes in; of `api_mut` with what its
caller then does with the API. -/
inductive Op : Type 1 where
  | startSession (keys : DBAKey) (entropy : Entropy)
  | startSessionPace {κ : Type} [AccessKey κ] (accessKey : κ) (efCardAccess : EfCardAccess)
      (entropy : Entropy)
  | readEfCardAccess {ρ : Type} (parse : Bytes → Outcome EfParseError ρ)
  | readEfCardSecurity {ρ : Type} (parse : Bytes → Outcome EfParseError ρ)
  | readDf1 {ρ : Type} (file : Df1File) (parse : Bytes → Outcome EfParseError ρ)
  | activeAuthenticate (challenge : Bytes)
  | verifyActiveAuthentication {ρ : Type} (parse : Bytes → Outcome EfParseError ρ)
      (verify : ρ → Bytes → Bytes → Outcome String Unit) (challenge : Bytes)
  | apiMut {α : Type} (m : Proc (MrtdApi Link) MrtdApiError α)

/-- The file that the commands of an operation are meant for. -/
def Op.needs : Op → SelectedDf
  | .startSession .. => .df1
  | @Op.startSessionPace _ _ _ _ _ => .none
  | .readEfCardAccess .. => .mf
  | .readEfCardSecurity .. => .mf
  | .readDf1 .. => .df1
  | .activeAuthenticate .. => .none
  | .verifyActiveAuthentication .. => .df1
  | .apiMut .. => .none

/-- A call and the state it leaves, with whether it has succeeded. -/
def Op.run (P : Primitives) (op : Op) (p : Passport Link) : Bool × Passport Link :=
  match op with
  | .startSession keys entropy => (Passport.startSession P keys entropy p).map Outcome.isOk id
  | @Op.startSessionPace _ _ accessKey efCardAccess entropy =>
    (Passport.startSessionPace P accessKey efCardAccess entropy p).map Outcome.isOk id
  | .readEfCardAccess parse => (Passport.readEfCardAccess parse p).map Outcome.isOk id
  | .readEfCardSecurity parse => (Passport.readEfCardSecurity parse p).map Outcome.isOk id
  | .readDf1 file parse => (Passport.readDf1 file parse p).map Outcome.isOk id
  | .activeAuthenticate challenge => (Passport.activeAuthenticate challenge p).map Outcome.isOk id
  | .verifyActiveAuthentication parse verify challenge =>
    (Passport.verifyActiveAuthentication parse verify challenge p).map Outcome.isOk id
  | .apiMut m => (Passport.apiMut m p).map Outcome.isOk id

namespace Passport

/-- What the passport notes as selected is what the chip has selected. -/
def Coherent (p : Passport Link) : Prop := p.df ≠ .none → p.api.transceiver.selected = p.df

/-- The operation sends no SELECT that the chip executes, unknown to the terminal, while the other
file is noted. -/
def Undisturbed (p : Passport Link) (op : Op) : Prop :=
  p.df = .none ∨ op.needs = p.df ∨ op.needs = .none ∨ p.api.answersSelect op.needs = true

instance (p : Passport Link) (op : Op) : Decidable (Undisturbed p op) :=
  inferInstanceAs (Decidable (_ ∨ _ ∨ _ ∨ _))

/-- The note and the selection stay, and what is executed meanwhile is executed under it. -/
structure Kept (p p' : Passport Link) : Prop where
  df : p'.df = p.df
  framed : MrtdApi.Framed p.api p'.api

lemma Kept.refl (p : Passport Link) : Kept p p := ⟨rfl, .refl _⟩

lemma Kept.trans ⦃p₁ p₂ p₃ : Passport Link⦄ (h : Kept p₁ p₂) (h' : Kept p₂ p₃) : Kept p₁ p₃ :=
  ⟨h'.df.trans h.df, h.framed.trans h'.framed⟩

lemma onApi_kept {α : Type} {m : Proc (MrtdApi Link) MrtdApiError α}
    (hm : m.Preserves MrtdApi.Framed) : (onApi m).Preserves Kept :=
  fun p => ⟨rfl, hm p.api⟩

/-- Reading a file and parsing it. -/
lemma read_kept {ρ : Type} (sfi : UInt8) (parse : Bytes → Outcome EfParseError ρ) :
    (onApi (MrtdApi.readFileBySfi sfi) >>= fun bytes =>
      Proc.lift ((parse bytes).mapErr .fromParse) :
      Proc (Passport Link) PassportError ρ).Preserves Kept :=
  (onApi_kept (MrtdApi.readFileBySfi_framed sfi)).bind Kept.trans fun _ =>
    Proc.preserves_lift Kept.refl _

/-! ### Selecting -/

/-- `select_mf` and `select_df1`, and nothing for an operation that needs neither. -/
def select : SelectedDf → Proc (Passport Link) PassportError Unit
  | .none => pure ()
  | .mf => selectMf
  | .df1 => selectDf1

/-- What a selection may come to: nothing to do, or a SELECT, whose success is noted. -/
inductive SelectSpec (df : SelectedDf) (p : Passport Link) : Bool → Passport Link → Prop
  | noted (h : p.df = df) : SelectSpec df p true p
  | sent {ok : Bool} {api : MrtdApi Link} (h : p.df ≠ df)
      (houtcome : MrtdApi.SelectOutcome df p.api ok api) :
      SelectSpec df p ok ⟨api, if ok then df else p.df⟩

lemma select_spec {df : SelectedDf} (hdf : df ≠ .none) (p : Passport Link) :
    SelectSpec df p (select df p).1.isOk (select df p).2 := by
  have hselect : select df p =
      if p.df ≠ df then
        (onApi (MrtdApi.transceiveCmd (MrtdApi.selectCommand df) >>= fun _ => pure ()) >>= fun _ =>
          Proc.modify fun self => { self with df := df }) p
      else (.ok (), p) := by
    cases df with
    | none => exact absurd rfl hdf
    | mf =>
      show (selectMf : Proc (Passport Link) PassportError Unit) p = _
      rw [selectMf, Proc.get_bind_apply]
      split <;> rfl
    | df1 =>
      show (selectDf1 : Proc (Passport Link) PassportError Unit) p = _
      rw [selectDf1, Proc.get_bind_apply]
      split <;> rfl
  rw [hselect]
  split
  · have houtcome := MrtdApi.transceiveCmd_select hdf p.api
    rw [Proc.bind_apply, onApi, Proc.bind_apply]
    generalize MrtdApi.transceiveCmd (MrtdApi.selectCommand df) p.api = result at houtcome ⊢
    obtain ⟨r | e | _, api⟩ := result
    · exact .sent ‹_› houtcome
    · exact .sent ‹_› houtcome
    · exact .sent ‹_› houtcome
  · exact .noted (not_not.mp ‹_›)

/-! ### Every operation -/

/-- An operation that needs a file selects it, and if that succeeds stays there. -/
inductive Stays (df : SelectedDf) (p p' : Passport Link) : Prop
  | selected (hok : (select df p).1.isOk = true) (h : Kept (select df p).2 p')
  | unselected (hok : (select df p).1.isOk = false) (h : (select df p).2 = p')

lemma stays_of_bind {α : Type} (df : SelectedDf) {rest : Unit → Proc (Passport Link) PassportError α}
    (hrest : (rest ()).Preserves Kept) (p : Passport Link) :
    Stays df p ((select df >>= rest) p).2 := by
  rcases hselect : select df p with ⟨_ | e | _, p₁⟩
  · rw [Proc.bind_apply_ok hselect]
    refine .selected (by rw [hselect]; rfl) ?_
    rw [hselect]
    exact hrest p₁
  · rw [Proc.bind_apply_err hselect]
    exact .unselected (by rw [hselect]; rfl) (by rw [hselect])
  · rw [Proc.bind_apply_panic hselect]
    exact .unselected (by rw [hselect]; rfl) (by rw [hselect])

lemma run_stays (P : Primitives) {op : Op} (h : op.needs ≠ .none) (p : Passport Link) :
    Stays op.needs p (op.run P p).2 := by
  cases op with
  | startSession keys entropy =>
    exact stays_of_bind .df1 (onApi_kept (MrtdApi.initSessionViaBac_framed P keys entropy)) p
  | startSessionPace accessKey efCardAccess entropy => exact absurd rfl h
  | readEfCardAccess parse => exact stays_of_bind .mf (read_kept efCardAccessSfi parse) p
  | readEfCardSecurity parse =>
    exact stays_of_bind .mf (read_kept efCardSecuritySfi parse) p
  | readDf1 file parse => exact stays_of_bind .df1 (read_kept file.sfi parse) p
  | activeAuthenticate challenge => exact absurd rfl h
  | verifyActiveAuthentication parse verify challenge =>
    have hgroup : (verifyActiveAuthentication parse verify challenge : Proc (Passport Link) _ _) =
        select .df1 >>= fun _ => (onApi (MrtdApi.readFileBySfi (Df1File.dg 14).sfi) >>= fun bytes =>
          Proc.lift ((parse bytes).mapErr .fromParse)) >>= fun dg15 =>
            activeAuthenticate challenge >>= fun response =>
              Proc.lift ((verify dg15 challenge response).mapErr .fromMessage) :=
      Proc.bind_assoc _ _ _
    show Stays .df1 p (verifyActiveAuthentication parse verify challenge p).2
    rw [hgroup]
    refine stays_of_bind .df1 ((read_kept _ parse).bind Kept.trans fun dg15 => ?_) p
    refine (onApi_kept (MrtdApi.activeAuthenticate_framed challenge)).bind Kept.trans fun _ => ?_
    exact Proc.preserves_lift Kept.refl _
  | apiMut m => exact absurd rfl h

/-- An operation that needs no file drops the note or leaves the selection alone. -/
lemma run_of_needs_none (P : Primitives) {op : Op} (h : op.needs = .none) (p : Passport Link) :
    (op.run P p).2.df = .none ∨ Kept p (op.run P p).2 := by
  cases op with
  | startSessionPace accessKey efCardAccess entropy =>
    have hkept := onApi_kept (MrtdApi.initSessionViaPace_framed P accessKey efCardAccess entropy) p
    have hrun : (Op.startSessionPace accessKey efCardAccess entropy).run P p =
        (startSessionPace P accessKey efCardAccess entropy p).map Outcome.isOk id := rfl
    rw [hrun, startSessionPace, Proc.bind_apply]
    generalize onApi (MrtdApi.initSessionViaPace P accessKey efCardAccess entropy) p = result
      at hkept ⊢
    obtain ⟨_ | e | _, p'⟩ := result
    · exact .inl rfl
    · exact .inr hkept
    · exact .inr hkept
  | activeAuthenticate challenge =>
    exact .inr (onApi_kept (MrtdApi.activeAuthenticate_framed challenge) p)
  | apiMut m => exact .inl rfl
  | _ => simp [Op.needs] at h

/-- A selection that does not go unnoticed keeps the note right, and one that succeeds leaves the
file it is for selected; what it made the chip execute are SELECTs. -/
lemma select_coherent {df : SelectedDf} (hdf : df ≠ .none) {p : Passport Link}
    (hp : Coherent p)
    (hundisturbed : p.df = .none ∨ df = p.df ∨ p.api.answersSelect df = true) :
    Coherent (select df p).2 ∧
      ((select df p).1.isOk = true → (select df p).2.df = df) ∧
      ∃ new, (select df p).2.api.transceiver.served = p.api.transceiver.served ++ new ∧
        ∀ entry ∈ new, SelectedDf.ofWire entry.1 ≠ .none := by
  have hspec := select_spec hdf p
  generalize select df p = result at hspec ⊢
  obtain ⟨x, p'⟩ := result
  dsimp only at hspec ⊢
  generalize x.isOk = succeeded at hspec ⊢
  cases hspec with
  | noted h => exact ⟨hp, fun _ => h, [], by simp, by simp⟩
  | sent h houtcome =>
    cases houtcome with
    | acknowledged hselected =>
      obtain ⟨wire, hwire, hserved⟩ := hselected.served
      refine ⟨fun _ => hselected.selected, fun _ => rfl, _, hserved, ?_⟩
      intro entry hentry
      rw [List.mem_singleton.mp hentry, hwire]
      exact hdf
    | refused hselected hserved =>
      refine ⟨fun hnoted => hselected.trans (hp hnoted), fun hok => by simp at hok, [], ?_, by simp⟩
      rw [hserved, List.append_nil]
    | unanswered hselected hanswers =>
      obtain ⟨wire, hwire, hserved⟩ := hselected.served
      have hnone : p.df = .none := by
        rcases hundisturbed with hnone | hsame | hanswered
        · exact hnone
        · exact absurd hsame.symm h
        · rw [hanswers] at hanswered
          exact absurd hanswered Bool.false_ne_true
      refine ⟨fun hnoted => absurd hnone hnoted, fun hok => by simp at hok, _, hserved, ?_⟩
      intro entry hentry
      rw [List.mem_singleton.mp hentry, hwire]
      exact hdf

/-- One operation keeps the note right, and what it makes the chip execute besides SELECTs is
executed with the file selected that it is meant for. -/
lemma run_coherent (P : Primitives) {op : Op} {p : Passport Link} (hp : Coherent p)
    (hundisturbed : Undisturbed p op) :
    Coherent (op.run P p).2 ∧ (op.needs ≠ .none →
      ∃ new, (op.run P p).2.api.transceiver.served = p.api.transceiver.served ++ new ∧
        ∀ entry ∈ new, SelectedDf.ofWire entry.1 = .none → entry.2 = op.needs) := by
  by_cases hneeds : op.needs = .none
  · refine ⟨?_, fun h => absurd hneeds h⟩
    rcases run_of_needs_none P hneeds p with hdropped | hkept
    · exact fun hnoted => absurd hdropped hnoted
    · intro hnoted
      rw [hkept.df] at hnoted ⊢
      exact hkept.framed.selected.trans (hp hnoted)
  have hcase : p.df = .none ∨ op.needs = p.df ∨ p.api.answersSelect op.needs = true := by
    rcases hundisturbed with h | h | h | h
    · exact .inl h
    · exact .inr (.inl h)
    · exact absurd h hneeds
    · exact .inr (.inr h)
  obtain ⟨hselect, hdf, new, hserved, hnew⟩ := select_coherent hneeds hp hcase
  cases run_stays P hneeds p with
  | selected hok hkept =>
    have hthere := hdf hok
    have hselected : (select op.needs p).2.api.transceiver.selected = op.needs :=
      (hselect (by rwa [hthere])).trans hthere
    refine ⟨?_, fun _ => ?_⟩
    · intro hnoted
      rw [hkept.df, hthere]
      exact hkept.framed.selected.trans hselected
    · obtain ⟨new', hserved', hnew'⟩ := hkept.framed.served
      refine ⟨new ++ new', ?_, ?_⟩
      · rw [hserved', hserved, List.append_assoc]
      · intro entry hentry hplain
        rcases List.mem_append.mp hentry with hentry | hentry
        · exact absurd hplain (hnew entry hentry)
        · exact (hnew' entry hentry).trans hselected
  | unselected hok hstays =>
    rw [← hstays]
    refine ⟨hselect, fun _ => ⟨new, hserved, ?_⟩⟩
    intro entry hentry hplain
    exact absurd hplain (hnew entry hentry)

/-- In every run of any operations over any transport, the note stays right as long as no SELECT
is executed unknown to the terminal while the other file is noted; and then every further operation
that relies on it has its commands executed with the file selected that they are meant for. -/
theorem df_cache_coherent (P : Primitives) (link : Link) (ops : List Op)
    (hundisturbed : Machine.Every (Op.run P) Undisturbed (new link) ops) :
    Coherent (Machine.final (Op.run P) (new link) ops) ∧
      ∀ op : Op, op.needs ≠ .none →
        Undisturbed (Machine.final (Op.run P) (new link) ops) op →
        ∃ served, (op.run P (Machine.final (Op.run P) (new link) ops)).2.api.transceiver.served =
            (Machine.final (Op.run P) (new link) ops).api.transceiver.served ++ served ∧
          ∀ entry ∈ served, SelectedDf.ofWire entry.1 = .none → entry.2 = op.needs := by
  have hcoherent : Coherent (Machine.final (Op.run P) (new link) ops) :=
    @Machine.final_invariant_of_every _ _ _ (Op.run P) Coherent Undisturbed
      (fun _ _ hp hgood => (run_coherent P hp hgood).1) _ (fun hnoted => absurd rfl hnoted) ops
      hundisturbed
  exact ⟨hcoherent, fun op hneeds hop => (run_coherent P hcoherent hop).2 hneeds⟩

/-! ### Two readings -/

/-- A parser that takes any file. -/
def acceptAll (bytes : Bytes) : Outcome EfParseError Bytes := .ok bytes

/-- The chip behind a transport with the given behaviour, its master file selected. -/
def linkOf (script : List Delivery) : Link := ⟨.mf, [], script⟩

/-- Reading EF.COM and then EF.CardAccess. -/
def comThenCardAccess : List Op := [.readDf1 .com acceptAll, .readEfCardAccess acceptAll]

/-- Success without data. -/
def acknowledged : Delivery := .executed [0x90, 0x00]

/-- Security status not satisfied. -/
def unsatisfied : Delivery := .rejected ⟨[0x69, 0x82], by decide⟩

/-- A file of four bytes. -/
def answered : Delivery := .executed [0x60, 0x02, 0x5F, 0x01, 0x90, 0x00]

/-- A rejected read leaves the note right, and the files are then read where they are. -/
theorem df_cache_coherent_rejected :
    ∃ served, ((Op.readDf1 .com acceptAll).run .transparent (Machine.final (Op.run .transparent)
        (new (linkOf [acknowledged, unsatisfied, acknowledged, answered, acknowledged, answered]))
        comThenCardAccess)).2.api.transceiver.served =
      (Machine.final (Op.run .transparent)
        (new (linkOf [acknowledged, unsatisfied, acknowledged, answered, acknowledged, answered]))
        comThenCardAccess).api.transceiver.served ++ served ∧
      ∀ entry ∈ served, SelectedDf.ofWire entry.1 = .none → entry.2 = .df1 :=
  (df_cache_coherent .transparent _ comThenCardAccess (by decide +kernel)).2
    (.readDf1 .com acceptAll) (by decide) (by decide +kernel)

/-- The read of EF.COM is refused, the SELECT of the master file is executed but its answer is
lost: the application stays noted, and the read of EF.SOD that follows is executed in the master
file, where its short identifier is the one of EF.CardSecurity. -/
theorem stale_after_lost_answer :
    ¬ Coherent (Machine.final (Op.run .transparent)
      (new (linkOf [acknowledged, unsatisfied, .lost ⟨"no answer"⟩, answered]))
      comThenCardAccess) ∧
    ((Op.readDf1 .sod acceptAll).run .transparent (Machine.final (Op.run .transparent)
      (new (linkOf [acknowledged, unsatisfied, .lost ⟨"no answer"⟩, answered]))
      comThenCardAccess)).2.api.transceiver.served.getLast? =
      some ([0x00, 0xB0, 0x9D, 0x00, 0x08], .mf) := by
  refine ⟨?_, by decide +kernel⟩
  have hstale : (Machine.final (Op.run .transparent)
      (new (linkOf [acknowledged, unsatisfied, .lost ⟨"no answer"⟩, answered]))
      comThenCardAccess).df = .df1 ∧ (Machine.final (Op.run .transparent)
      (new (linkOf [acknowledged, unsatisfied, .lost ⟨"no answer"⟩, answered]))
      comThenCardAccess).api.transceiver.selected = .mf := by decide +kernel
  intro hcoherent
  have hselected := hcoherent (by rw [hstale.1]; decide)
  rw [hstale.1, hstale.2] at hselected
  exact absurd hselected (by decide)

end Passport

end Dmrtd
