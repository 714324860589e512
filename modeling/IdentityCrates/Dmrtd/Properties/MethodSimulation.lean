import IdentityCrates.Lib.Simulation
import IdentityCrates.Dmrtd.Passport

/-!
# One driver over two transports

The methods of `MrtdApi` and `Passport` that read a document reach the card through
`transceive_cmd` alone, and with a few instructions (`CommandApdu.Carried`).  So when `transceive_cmd`
does the same with such commands over two transports, up to a relation between the states, then so
does every method: the methods are compared by their shape (`Rust.Proc.Simulates`), the reading loop
by induction on the bytes that are left.

Where the transports themselves answer alike, whatever is sent, the handshakes do the same over them
too.
-/

namespace Dmrtd

open Rust Octets

/-- A command of the reading methods: within limits, with room for the protection of a session, with
the secure messaging bits of its class byte clear, and with one of their instructions. -/
structure CommandApdu.Carried (cmd : CommandApdu) : Prop where
  inLimits : cmd.InLimits
  room : cmd.body.length + 48 ≤ 0xFFFF
  cla : cmd.cla &&& Cla.smHeaderAuthn = 0
  ins : cmd.ins ∈ [Ins.selectFile, Ins.readBinary, Ins.readBinaryExt, Ins.internalAuthenticate]

variable {τ τ' : Type} [Transceiver τ] [Transceiver τ']

namespace MrtdApi

/-- The offset of an extended read leaves room for the protection. -/
lemma length_offsetDo_le {ε : Type} {offset : Nat} {offsetDo : Bytes}
    (h : (Tlv.encode 0x54 (offsetBytes offset) : Outcome ε Bytes) = .ok offsetDo) :
    offsetDo.length ≤ 9 := by
  have hlen := Tlv.length_encode_le (by decide) h
  have hbytes : (offsetBytes offset).length ≤ 4 := by
    rw [offsetBytes, List.length_drop, length_toBE]
    omega
  omega

section Reading

variable {R : MrtdApi τ → MrtdApi τ' → Prop}
  (hcmd : ∀ cmd : CommandApdu, cmd.Carried → Proc.Simulates R (transceiveCmd cmd) (transceiveCmd cmd))

include hcmd

/-- A command that is built and sent does the same when its like does. -/
lemma send_simulates {cla ins p1 p2 : UInt8} {data : Option Bytes} {ne : Nat}
    (hcla : cla &&& Cla.smHeaderAuthn = 0) (hroom : (data.getD []).length + 48 ≤ 0xFFFF)
    (hins : ins ∈ [Ins.selectFile, Ins.readBinary, Ins.readBinaryExt, Ins.internalAuthenticate]) :
    Proc.Simulates R (send cla ins p1 p2 data ne) (send cla ins p1 p2 data ne) := by
  unfold send
  rcases hnew : CommandApdu.new cla ins p1 p2 data ne with cmd | e | _
  · obtain ⟨rfl, hlim⟩ := CommandApdu.new_eq_ok.mp hnew
    exact hcmd _ ⟨hlim, hroom, hcla, hins⟩
  · exact Proc.simulates_fail _
  · exact Proc.simulates_lift .panic

lemma selectMasterFile_simulates : Proc.Simulates R selectMasterFile selectMasterFile :=
  (send_simulates hcmd (by decide) (by decide) (by decide)).bind fun _ => Proc.simulates_pure ()

lemma selectEmrtdApplication_simulates :
    Proc.Simulates R selectEmrtdApplication selectEmrtdApplication :=
  (send_simulates hcmd (by decide) (by decide) (by decide)).bind fun _ => Proc.simulates_pure ()

lemma activeAuthenticate_simulates (challenge : Bytes) :
    Proc.Simulates R (activeAuthenticate challenge) (activeAuthenticate challenge) := by
  refine Proc.simulates_ite (fun _ => Proc.simulates_fail _) fun hlen => ?_
  rw [not_not] at hlen
  refine (send_simulates hcmd (by decide) ?_ (by decide)).bind fun _ => Proc.simulates_lift _
  rw [Option.getD_some, hlen]
  decide

lemma readBinaryBySfi_simulates (sfi offset : UInt8) (ne : Nat) :
    Proc.Simulates R (readBinaryBySfi sfi offset ne) (readBinaryBySfi sfi offset ne) :=
  (send_simulates hcmd (by decide) (by decide) (by decide)).bind fun _ => Proc.simulates_pure _

lemma readBinary_simulates (offset ne : Nat) :
    Proc.Simulates R (readBinary offset ne) (readBinary offset ne) :=
  Proc.simulates_ite (fun _ => Proc.simulates_fail _) fun _ =>
    (send_simulates hcmd (by decide) (by decide) (by decide)).bind fun _ => Proc.simulates_pure _

lemma readBinaryExt_simulates (offset ne : Nat) :
    Proc.Simulates R (readBinaryExt offset ne) (readBinaryExt offset ne) := by
  unfold readBinaryExt
  rcases hdo : (Tlv.encode 0x54 (offsetBytes offset) : Outcome MrtdApiError Bytes) with
    offsetDo | e | _
  · have hlen := length_offsetDo_le hdo
    refine (send_simulates hcmd (by decide) ?_ (by decide)).bind fun _ => Proc.simulates_lift _
    rw [Option.getD_some]
    omega
  · exact Proc.simulates_fail e
  · exact Proc.simulates_lift .panic

lemma readChunk_simulates (totalLen offset : Nat) :
    Proc.Simulates R (readChunk totalLen offset) (readChunk totalLen offset) :=
  Proc.simulates_ite (fun _ => readBinary_simulates hcmd _ _) fun _ =>
    readBinaryExt_simulates hcmd _ _

/-- The reading loop, by induction on the bytes that are left. -/
lemma readTail_simulates (totalLen : Nat) (data : Bytes) :
    Proc.Simulates R (readTail totalLen data) (readTail totalLen data) := by
  intro api api' h
  induction hleft : totalLen - data.length using Nat.strongRecOn generalizing data api api' with
  | _ left ih =>
  subst hleft
  rw [readTail, readTail]
  by_cases hlt : data.length < totalLen
  · rw [if_pos hlt, if_pos hlt]
    obtain ⟨hout, hstate⟩ := readChunk_simulates hcmd totalLen data.length api api' h
    generalize readChunk totalLen data.length api = first at hout hstate ⊢
    generalize readChunk totalLen data.length api' = first' at hout hstate ⊢
    obtain ⟨out, api₁⟩ := first
    obtain ⟨out', api₁'⟩ := first'
    obtain rfl : out = out' := hout
    rcases out with (_ | ⟨b, chunk⟩) | e | _
    · exact ⟨rfl, hstate⟩
    · refine ih _ ?_ (data ++ b :: chunk) api₁ api₁' hstate rfl
      rw [List.length_append, List.length_cons]
      omega
    · exact ⟨rfl, hstate⟩
    · exact ⟨rfl, hstate⟩
  · rw [if_neg hlt, if_neg hlt]
    exact ⟨rfl, h⟩

lemma readFileBySfi_simulates (sfi : UInt8) :
    Proc.Simulates R (readFileBySfi sfi) (readFileBySfi sfi) := by
  refine (readBinaryBySfi_simulates hcmd _ _ _).bind fun first => ?_
  refine Proc.simulates_ite (fun _ => Proc.simulates_fail _) fun _ => ?_
  refine (Proc.simulates_lift _).bind fun decoded => ?_
  refine Proc.simulates_ite (fun _ => Proc.simulates_fail _) fun _ => ?_
  exact (readTail_simulates hcmd _ _).bind fun _ => Proc.simulates_pure _

end Reading

/-! ## Transports that answer alike -/

/-- The transports are related, and the sessions are the same. -/
structure Over (T : τ → τ' → Prop) (api : MrtdApi τ) (api' : MrtdApi τ') : Prop where
  transceiver : T api.transceiver api'.transceiver
  sm : api.sm = api'.sm

section Transport

variable {T : τ → τ' → Prop} (htransport : ∀ bytes : Bytes,
  Proc.Simulates T (Transceiver.transceive bytes) (Transceiver.transceive bytes))

omit [Transceiver τ] [Transceiver τ'] in
lemma withSm_over {α : Type} (m : Proc MrtdSM SmError α) (plain : α) :
    Proc.Simulates (Over T) (withSm m plain) (withSm m plain) := by
  rintro ⟨t, sm⟩ ⟨t', _⟩ ⟨h, rfl⟩
  cases sm with
  | none => exact ⟨rfl, h, rfl⟩
  | some sm => exact ⟨rfl, h, rfl⟩

include htransport

lemma exchange_over (bytes : Bytes) :
    Proc.Simulates (Over T) (exchange bytes) (exchange bytes) := by
  rintro ⟨t, sm⟩ ⟨t', _⟩ ⟨h, rfl⟩
  obtain ⟨hout, hstate⟩ := htransport bytes t t' h
  exact ⟨congrArg (Outcome.mapErr MrtdApiError.transceive) hout, hstate, rfl⟩

lemma transceiveCmd_over (cmd : CommandApdu) :
    Proc.Simulates (Over T) (transceiveCmd cmd) (transceiveCmd cmd) := by
  refine (withSm_over _ _).bind fun wire => ?_
  refine (exchange_over htransport wire.toBytes).bind fun bytes => ?_
  refine (Proc.simulates_lift _).bind fun rapdu => ?_
  refine (withSm_over _ _).bind fun unwrapped => ?_
  exact Proc.simulates_ite (fun _ => Proc.simulates_fail _) fun _ => Proc.simulates_pure _

/-- A handshake goes the same way, exchange by exchange. -/
lemma drive_over {ς ε δ : Type} (party : Dialogue.Party ς ε Bytes Bytes δ) (wrap : ε → MrtdApiError)
    (s : ς) : Proc.Simulates (Over T) (party.drive exchange wrap s) (party.drive exchange wrap s) :=
  party.drive_simulates (exchange_over htransport) wrap s

lemma initSessionViaBac_over (P : Primitives) (key : DBAKey) (entropy : Entropy) :
    Proc.Simulates (Over T) (initSessionViaBac P key entropy) (initSessionViaBac P key entropy) := by
  refine (Proc.simulates_lift _).bind fun session => ?_
  refine (drive_over htransport _ _ _).bind fun sm => ?_
  exact Proc.simulates_modify fun _ _ h => ⟨h.transceiver, rfl⟩

lemma initSessionViaPace_over (P : Primitives) {κ : Type} [AccessKey κ] (accessKey : κ)
    (efCardAccess : EfCardAccess) (entropy : Entropy) :
    Proc.Simulates (Over T) (initSessionViaPace P accessKey efCardAccess entropy)
      (initSessionViaPace P accessKey efCardAccess entropy) := by
  refine (Proc.simulates_lift _).bind fun info => ?_
  refine (Proc.simulates_lift _).bind fun parameterId => ?_
  refine (Proc.simulates_lift _).bind fun session => ?_
  refine (drive_over htransport _ _ _).bind fun sm => ?_
  exact Proc.simulates_modify fun _ _ h => ⟨h.transceiver, rfl⟩

end Transport

end MrtdApi

/-! ## The methods of a passport -/

/-- A call of a reading method of `Passport`, with what its caller passes in. -/
inductive PassportCall (ρ : Type) where
  | readEfCardAccess (parse : Bytes → Outcome EfParseError ρ)
  | readEfCardSecurity (parse : Bytes → Outcome EfParseError ρ)
  | readDf1 (file : Df1File) (parse : Bytes → Outcome EfParseError ρ)
  | activeAuthenticate (challenge : Bytes)
  | verifyActiveAuthentication (parse : Bytes → Outcome EfParseError ρ)
      (verify : ρ → Bytes → Bytes → Outcome String Unit) (challenge : Bytes)

/-- What such a call returns. -/
inductive PassportAnswer (ρ : Type) where
  | contents (file : ρ)
  | response (bytes : Bytes)
  | verified
  deriving DecidableEq

/-- Serve one call. -/
def PassportCall.run {τ ρ : Type} [Transceiver τ] :
    PassportCall ρ → Proc (Passport τ) PassportError (PassportAnswer ρ)
  | .readEfCardAccess parse => do return .contents (← Passport.readEfCardAccess parse)
  | .readEfCardSecurity parse => do return .contents (← Passport.readEfCardSecurity parse)
  | .readDf1 file parse => do return .contents (← Passport.readDf1 file parse)
  | .activeAuthenticate challenge => do return .response (← Passport.activeAuthenticate challenge)
  | .verifyActiveAuthentication parse verify challenge => do
    Passport.verifyActiveAuthentication parse verify challenge
    return .verified

namespace Passport

/-- The same note of what is selected, over related APIs. -/
structure Over (R : MrtdApi τ → MrtdApi τ' → Prop) (p : Passport τ) (p' : Passport τ') : Prop where
  df : p.df = p'.df
  api : R p.api p'.api

variable {R : MrtdApi τ → MrtdApi τ' → Prop}

omit [Transceiver τ] [Transceiver τ'] in
lemma onApi_simulates {α : Type} {m : Proc (MrtdApi τ) MrtdApiError α}
    {m' : Proc (MrtdApi τ') MrtdApiError α} (h : Proc.Simulates R m m') :
    Proc.Simulates (Over R) (onApi m) (onApi m') := by
  intro p p' hp
  obtain ⟨hout, hstate⟩ := h p.api p'.api hp.api
  exact ⟨congrArg (Outcome.mapErr PassportError.fromApi) hout, hp.df, hstate⟩

section Reading

variable (hcmd : ∀ cmd : CommandApdu, cmd.Carried →
  Proc.Simulates R (MrtdApi.transceiveCmd cmd) (MrtdApi.transceiveCmd cmd))

include hcmd

lemma selectMf_simulates : Proc.Simulates (Over R) selectMf selectMf := by
  refine Proc.simulates_get_bind fun p p' hp => ?_
  rw [hp.df]
  refine Proc.simulates_ite (fun _ => ?_) fun _ => Proc.simulates_pure ()
  exact (onApi_simulates (MrtdApi.selectMasterFile_simulates hcmd)).bind fun _ =>
    Proc.simulates_modify fun _ _ h => ⟨rfl, h.api⟩

lemma selectDf1_simulates : Proc.Simulates (Over R) selectDf1 selectDf1 := by
  refine Proc.simulates_get_bind fun p p' hp => ?_
  rw [hp.df]
  refine Proc.simulates_ite (fun _ => ?_) fun _ => Proc.simulates_pure ()
  exact (onApi_simulates (MrtdApi.selectEmrtdApplication_simulates hcmd)).bind fun _ =>
    Proc.simulates_modify fun _ _ h => ⟨rfl, h.api⟩

variable {ρ : Type}

/-- A file is read in the dedicated file that is selected, and parsed. -/
lemma readFile_simulates (sfi : UInt8) (parse : Bytes → Outcome EfParseError ρ) :
    Proc.Simulates (Over R)
      (onApi (MrtdApi.readFileBySfi sfi) >>= fun bytes =>
        Proc.lift ((parse bytes).mapErr PassportError.fromParse))
      (onApi (MrtdApi.readFileBySfi sfi) >>= fun bytes =>
        Proc.lift ((parse bytes).mapErr PassportError.fromParse)) :=
  (onApi_simulates (MrtdApi.readFileBySfi_simulates hcmd sfi)).bind fun _ => Proc.simulates_lift _

lemma readEfCardAccess_simulates (parse : Bytes → Outcome EfParseError ρ) :
    Proc.Simulates (Over R) (readEfCardAccess parse) (readEfCardAccess parse) :=
  (selectMf_simulates hcmd).bind fun _ => readFile_simulates hcmd _ parse

lemma readEfCardSecurity_simulates (parse : Bytes → Outcome EfParseError ρ) :
    Proc.Simulates (Over R) (readEfCardSecurity parse) (readEfCardSecurity parse) :=
  (selectMf_simulates hcmd).bind fun _ => readFile_simulates hcmd _ parse

lemma readDf1_simulates (file : Df1File) (parse : Bytes → Outcome EfParseError ρ) :
    Proc.Simulates (Over R) (readDf1 file parse) (readDf1 file parse) :=
  (selectDf1_simulates hcmd).bind fun _ => readFile_simulates hcmd _ parse

lemma activeAuthenticate_simulates (challenge : Bytes) :
    Proc.Simulates (Over R) (activeAuthenticate challenge) (activeAuthenticate challenge) :=
  onApi_simulates (MrtdApi.activeAuthenticate_simulates hcmd challenge)

end Reading

section Transport

variable {T : τ → τ' → Prop} (htransport : ∀ bytes : Bytes,
  Proc.Simulates T (Transceiver.transceive bytes) (Transceiver.transceive bytes))

include htransport

lemma startSession_over (P : Primitives) (keys : DBAKey) (entropy : Entropy) :
    Proc.Simulates (Over (MrtdApi.Over T)) (startSession P keys entropy)
      (startSession P keys entropy) :=
  (selectDf1_simulates fun cmd _ => MrtdApi.transceiveCmd_over htransport cmd).bind fun _ =>
    onApi_simulates (MrtdApi.initSessionViaBac_over htransport P keys entropy)

lemma startSessionPace_over (P : Primitives) {κ : Type} [AccessKey κ] (accessKey : κ)
    (efCardAccess : EfCardAccess) (entropy : Entropy) :
    Proc.Simulates (Over (MrtdApi.Over T)) (startSessionPace P accessKey efCardAccess entropy)
      (startSessionPace P accessKey efCardAccess entropy) :=
  (onApi_simulates (MrtdApi.initSessionViaPace_over htransport P accessKey efCardAccess
    entropy)).bind fun _ => Proc.simulates_modify fun _ _ h => ⟨rfl, h.api⟩

end Transport

end Passport

/-- Every call returns the same over both. -/
lemma PassportCall.run_simulates {ρ : Type} {R : MrtdApi τ → MrtdApi τ' → Prop}
    (hcmd : ∀ cmd : CommandApdu, cmd.Carried →
      Proc.Simulates R (MrtdApi.transceiveCmd cmd) (MrtdApi.transceiveCmd cmd))
    (call : PassportCall ρ) : Proc.Simulates (Passport.Over R) call.run call.run := by
  cases call with
  | readEfCardAccess parse =>
    exact (Passport.readEfCardAccess_simulates hcmd parse).bind fun _ => Proc.simulates_pure _
  | readEfCardSecurity parse =>
    exact (Passport.readEfCardSecurity_simulates hcmd parse).bind fun _ => Proc.simulates_pure _
  | readDf1 file parse =>
    exact (Passport.readDf1_simulates hcmd file parse).bind fun _ => Proc.simulates_pure _
  | activeAuthenticate challenge =>
    exact (Passport.activeAuthenticate_simulates hcmd challenge).bind fun _ => Proc.simulates_pure _
  | verifyActiveAuthentication parse verify challenge =>
    refine ((Passport.readDf1_simulates hcmd _ parse).bind fun dg15 => ?_).bind fun _ =>
      Proc.simulates_pure _
    exact (Passport.activeAuthenticate_simulates hcmd challenge).bind fun _ => Proc.simulates_lift _

end Dmrtd
