import IdentityCrates.Dmrtd.Proto.MrtdSm

/-!
# The ICC-level API

`mrtd_api.rs`, less the two session handshakes: SELECT, INTERNAL AUTHENTICATE, READ BINARY, and the
secure-messaging-aware `transceive_cmd` all of them go through.

The transport is a type with a `Transceiver` instance, as in the source.  Its `transceive` is a
method on the transport's own state, so a chip of any behaviour is an instance.
-/

namespace Dmrtd

open Rust Octets

/-- `TransceiveError`. -/
structure TransceiveError where
  message : String
  deriving DecidableEq, Repr

/-- `Transceiver`: sends an APDU to the chip and returns the full response. -/
class Transceiver (τ : Type) where
  transceive : Bytes → Proc τ TransceiveError Bytes

/-- A channel on which every command is answered with `resp`. -/
@[reducible] def Transceiver.constant (resp : Bytes) : Transceiver Unit := ⟨fun _ t => (.ok resp, t)⟩

/-- `MrtdApiError`. -/
inductive MrtdApiError where
  | transceive (e : TransceiveError)
  | chipStatus (status : StatusWord)
  | apdu (message : String)
  | response (message : String)
  | tlv (message : String)
  | invalidChallengeLen (n : Nat)
  | missingPaceInfo
  | offsetTooLarge (offset : Nat)
  | fileTooLarge (n : Nat)
  | session (message : String)
  deriving DecidableEq, Repr

/-- The `Display` text of a `MrtdApiError`. -/
def MrtdApiError.text : MrtdApiError → String
  | .transceive e => s!"TransceiveError: {e.message}"
  | .chipStatus status => s!"chip returned status {status.text}"
  | .apdu message => s!"APDU construction failed: {message}"
  | .response message => s!"response parse failed: {message}"
  | .tlv message => s!"TLV parse failed: {message}"
  | .invalidChallengeLen n => s!"invalid challenge length {n} (expected 8)"
  | .missingPaceInfo => "EF.CardAccess is missing a PACEInfo record"
  | .offsetTooLarge offset => s!"offset {offset} exceeds READ BINARY limit (32767)"
  | .fileTooLarge n => s!"declared file length {n} exceeds maximum permitted size (524288)"
  | .session message => s!"session establishment failed: {message}"

/-- `MrtdApi`: a transport and, once a handshake has succeeded, a secure messaging session. -/
structure MrtdApi (τ : Type) where
  transceiver : τ
  sm : Option MrtdSM

/-- `AID` of the eMRTD application. -/
def aid : Bytes := [0xA0, 0x00, 0x00, 0x02, 0x47, 0x10, 0x01]

namespace MrtdApi

variable {τ : Type}

/-- `HEADER_CHUNK_LEN`. -/
def headerChunkLen : Nat := 8

/-- `BODY_CHUNK_LEN`. -/
def bodyChunkLen : Nat := 0xDC

/-- `MAX_FILE_LEN`. -/
def maxFileLen : Nat := 512 * 1024

/-- `MrtdApi::new`. -/
def new (transceiver : τ) : MrtdApi τ := ⟨transceiver, none⟩

/-- `has_sm`. -/
def hasSm (api : MrtdApi τ) : Bool := api.sm.isSome

/-- `clear_sm`. -/
def clearSm (api : MrtdApi τ) : MrtdApi τ := { api with sm := none }

/-- An APDU construction error as the API reports it. -/
def apduError (e : CommandApduError) : MrtdApiError := .apdu e.text

/-- Run a method of the secure messaging session, or return `plain` when there is none. -/
def withSm {α : Type} (m : Proc MrtdSM SmError α) (plain : α) : Proc (MrtdApi τ) MrtdApiError α :=
  fun api =>
    match api.sm with
    | some sm => ((m sm).1.mapErr fun e => .response e.message, { api with sm := some (m sm).2 })
    | none => (.ok plain, api)

/-- Run a method of the transport. -/
def onTransceiver {α : Type} (m : Proc τ TransceiveError α) : Proc (MrtdApi τ) MrtdApiError α :=
  fun api =>
    ((m api.transceiver).1.mapErr .transceive, { api with transceiver := (m api.transceiver).2 })

lemma withSm_some {α : Type} (m : Proc MrtdSM SmError α) (plain : α) (t : τ) (sm : MrtdSM) :
    withSm m plain ⟨t, some sm⟩ =
      ((m sm).1.mapErr fun e => .response e.message, ⟨t, some (m sm).2⟩) := rfl

lemma withSm_none {α : Type} (m : Proc MrtdSM SmError α) (plain : α) (t : τ) :
    withSm m plain ⟨t, none⟩ = (.ok plain, ⟨t, none⟩) := rfl

lemma withSm_eq_ok {α : Type} {m : Proc MrtdSM SmError α} {plain a : α} {t : τ} {sm : MrtdSM}
    {api' : MrtdApi τ} :
    withSm m plain ⟨t, some sm⟩ = (.ok a, api') ↔
      (m sm).1 = .ok a ∧ api' = ⟨t, some (m sm).2⟩ := by
  rw [withSm_some, Prod.mk.injEq, Outcome.mapErr_eq_ok]
  exact and_congr_right fun _ => eq_comm

lemma onTransceiver_eq_ok {α : Type} {m : Proc τ TransceiveError α} {a : α} {t : τ}
    {sm : Option MrtdSM} {api' : MrtdApi τ} :
    onTransceiver m ⟨t, sm⟩ = (.ok a, api') ↔ (m t).1 = .ok a ∧ api' = ⟨(m t).2, sm⟩ := by
  simp only [onTransceiver, Prod.mk.injEq, Outcome.mapErr_eq_ok]
  exact and_congr_right fun _ => eq_comm

variable [Transceiver τ]

/-- `transceive_cmd`. -/
def transceiveCmd (cmd : CommandApdu) : Proc (MrtdApi τ) MrtdApiError ResponseApdu := do
  let wire ← withSm (MrtdSM.protect cmd) cmd
  let respBytes ← onTransceiver (Transceiver.transceive wire.toBytes)
  let rapdu ← Proc.lift ((ResponseApdu.fromBytes respBytes).mapErr fun e => .response e.text)
  let unwrapped ← withSm (MrtdSM.unprotect rapdu) rapdu
  if unwrapped.status ≠ StatusWord.success then Proc.fail (.chipStatus unwrapped.status)
  else return unwrapped

/-- Build a command and send it. -/
def send (cla ins p1 p2 : UInt8) (data : Option Bytes) (ne : Nat) :
    Proc (MrtdApi τ) MrtdApiError ResponseApdu := do
  let cmd ← Proc.lift ((CommandApdu.new cla ins p1 p2 data ne).mapErr apduError)
  transceiveCmd cmd

/-! ## SELECT and INTERNAL AUTHENTICATE -/

/-- `select_master_file`. -/
def selectMasterFile : Proc (MrtdApi τ) MrtdApiError Unit := do
  let _ ← send Cla.noSm Ins.selectFile SelectFileP1.byId SelectFileP2.noResponseData
    (some [0x3F, 0x00]) 0
  return ()

/-- `select_emrtd_application`. -/
def selectEmrtdApplication : Proc (MrtdApi τ) MrtdApiError Unit := do
  let _ ← send Cla.noSm Ins.selectFile SelectFileP1.byDfName SelectFileP2.noResponseData
    (some aid) 0
  return ()

/-- `active_authenticate`. -/
def activeAuthenticate (challenge : Bytes) : Proc (MrtdApi τ) MrtdApiError Bytes := do
  if challenge.length ≠ 8 then Proc.fail (.invalidChallengeLen challenge.length)
  else do
    let rapdu ← send Cla.noSm Ins.internalAuthenticate 0x00 0x00 (some challenge) 256
    Proc.lift (Outcome.ofOption (.response "empty response to INTERNAL AUTHENTICATE") rapdu.data)

/-! ## READ BINARY -/

/-- `read_binary_by_sfi`: the short file identifier in P1, the offset in P2. -/
def readBinaryBySfi (sfi offset : UInt8) (ne : Nat) : Proc (MrtdApi τ) MrtdApiError Bytes := do
  let rapdu ← send Cla.noSm Ins.readBinary (0x80 ||| (sfi &&& 0x1F)) offset none ne
  return rapdu.data.getD []

/-- `read_binary`: a 15-bit offset in P1-P2. -/
def readBinary (offset ne : Nat) : Proc (MrtdApi τ) MrtdApiError Bytes := do
  if offset > 0x7FFF then Proc.fail (.offsetTooLarge offset)
  else do
    let rapdu ← send Cla.noSm Ins.readBinary (UInt8.ofNat (offset >>> 8))
      (UInt8.ofNat (offset &&& 0xFF)) none ne
    return rapdu.data.getD []

/-- The offset of `read_binary_ext` in as few bytes as it fits, at least one. -/
def offsetBytes (offset : Nat) : Bytes :=
  let be := toBE 4 offset
  be.drop (min (be.findIdx (fun b => b != 0)) (be.length - 1))

/-- The unwrapping step of `read_binary_ext`: the payload of a `DO'53'` or `DO'73'`, or the data as
it is. -/
def unwrapDiscretionary (data : Bytes) : Outcome MrtdApiError Bytes :=
  match data with
  | tag :: _ =>
    if tag = 0x53 ∨ tag = 0x73 then
      (fun tv : DecodedTv => tv.value) <$> (Tlv.decode data).mapErr fun e => .tlv e.text
    else .ok data
  | [] => .ok data

/-- `read_binary_ext`: the odd instruction, with the offset in a `DO'54'`. -/
def readBinaryExt (offset ne : Nat) : Proc (MrtdApi τ) MrtdApiError Bytes := do
  let offsetDo ← Proc.lift (Tlv.encode 0x54 (offsetBytes offset))
  let rapdu ← send Cla.noSm Ins.readBinaryExt 0x00 0x00 (some offsetDo) ne
  Proc.lift (unwrapDiscretionary (rapdu.data.getD []))

/-- One step of the reading loop: the chunk at `offset` of a file of `totalLen` bytes. -/
def readChunk (totalLen offset : Nat) : Proc (MrtdApi τ) MrtdApiError Bytes :=
  let ne := min (totalLen - offset) bodyChunkLen
  if offset ≤ 0x7FFF then readBinary offset ne else readBinaryExt offset ne

/-- The reading loop of `read_file_by_sfi`. -/
def readTail (totalLen : Nat) (data : Bytes) : Proc (MrtdApi τ) MrtdApiError Bytes := fun api =>
  if data.length < totalLen then
    match readChunk totalLen data.length api with
    | (.ok [], api') =>
      (.err (.response
        s!"short read: got {data.length} of {totalLen} declared bytes for file"), api')
    | (.ok (b :: chunk), api') => readTail totalLen (data ++ b :: chunk) api'
    | (.err e, api') => (.err e, api')
    | (.panic, api') => (.panic, api')
  else (.ok data, api)
termination_by totalLen - data.length
decreasing_by
  rw [List.length_append, List.length_cons]
  omega

/-- `read_file_by_sfi`. -/
def readFileBySfi (sfi : UInt8) : Proc (MrtdApi τ) MrtdApiError Bytes := do
  let first ← readBinaryBySfi sfi 0 headerChunkLen
  if first.length < 2 then Proc.fail (.tlv "not enough bytes for TLV header")
  else do
    let decoded ← Proc.lift ((Tlv.decodeTagAndLength first).mapErr fun e => .tlv e.text)
    let totalLen := decoded.encodedLen + decoded.length.value
    if totalLen > maxFileLen then Proc.fail (.fileTooLarge totalLen)
    else do
      let data ← readTail totalLen first
      return data.take totalLen

end MrtdApi

end Dmrtd
