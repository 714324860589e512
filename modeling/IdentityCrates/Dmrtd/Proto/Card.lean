import IdentityCrates.Dmrtd.Proto.Chip
import IdentityCrates.Dmrtd.Proto.MrtdApi

/-!
# Cards

The card at the other end of the transport, after ISO 7816-4 and ICAO 9303-11: it is not part of the
source.

A card has applications (`CardApplication`), and in front of them an access control: the chip's side
of a handshake (`CardHandshake`), and the chip of secure messaging once that has opened a session.
The applications serve a command of a session as they would serve it without any access control, and
outside a session what they leave open.  A command that fails to verify ends the session.

`OpenCard` is the card without access control, as the applications alone would answer.
-/

namespace Dmrtd

open Rust Octets

/-- The applications of a card, with state `σ`: what they answer with access and without it, and what
the end of a session does to them.  A response data field has at most 65536 bytes. -/
class CardApplication (σ : Type) where
  serve : CommandApdu.Wire → σ → (StatusWord × Bytes) × σ
  serveClosed : CommandApdu.Wire → σ → (StatusWord × Bytes) × σ
  close : σ → σ
  length_serve : ∀ wire app, (serve wire app).1.2.length ≤ 65536

/-- The chip's side of a handshake, with state `η`: its answer to a command of the handshake, how the
handshake stands then, and the chip of the session if that has opened one; nothing for other
commands. -/
class CardHandshake (η : Type) where
  answer : CommandApdu.Wire → η → Option ((StatusWord × Bytes) × η × Option Chip)

/-- The instruction byte of a command. -/
def CommandApdu.Wire.ins (wire : CommandApdu.Wire) : UInt8 := wire.header.getD 1 0

/-- What a card answers, as it goes over the wire. -/
def answerBytes (answer : StatusWord × Bytes) : Bytes := answer.2 ++ answer.1.toBytes

/-- Wrong length. -/
def StatusWord.wrongLength : StatusWord := ⟨0x67, 0x00⟩

/-- Incorrect secure messaging data objects. -/
def StatusWord.incorrectSmDataObjects : StatusWord := ⟨0x69, 0x88⟩

/-- No precise diagnosis. -/
def StatusWord.noPreciseDiagnosis : StatusWord := ⟨0x6F, 0x00⟩

/-! ## Without access control -/

/-- A card that serves every command. -/
structure OpenCard (σ : Type) where
  app : σ

instance {σ : Type} [CardApplication σ] : Transceiver (OpenCard σ) where
  transceive bytes := fun card =>
    match CommandApdu.parse bytes with
    | some wire =>
      let served := CardApplication.serve wire card.app
      (.ok (answerBytes served.1), ⟨served.2⟩)
    | none => (.ok (answerBytes (StatusWord.wrongLength, [])), card)

/-! ## With access control -/

/-- A card: where the handshake stands, the chip of the session if one is open, and the
applications. -/
structure Card (η σ : Type) where
  handshake : η
  session : Option Chip
  app : σ

namespace Card

variable {η σ : Type} [CardHandshake η] [CardApplication σ]

/-- A command outside secure messaging. -/
def answerClosed (wire : CommandApdu.Wire) (card : Card η σ) : (StatusWord × Bytes) × Card η σ :=
  match CardHandshake.answer wire card.handshake with
  | some (answer, handshake, session) =>
    (answer, { card with handshake := handshake, session := session })
  | none =>
    let served := CardApplication.serveClosed wire card.app
    (served.1, { card with app := served.2 })

/-- A command to the open session.  The data of an odd instruction go into a `DO'85'`. -/
def answerOpen (bytes : Bytes) (chip : Chip) (card : Card η σ) : Bytes × Card η σ :=
  match chip.receive bytes with
  | (some wire, chip₁) =>
    let served := CardApplication.serve wire card.app
    let responded := chip₁.respond (decide (wire.ins &&& 1 = 1)) served.1.1 served.1.2
    (responded.1.getD (answerBytes (StatusWord.noPreciseDiagnosis, [])),
      { card with session := some responded.2, app := served.2 })
  | (none, _) =>
    (answerBytes (StatusWord.incorrectSmDataObjects, []),
      { card with session := none, app := CardApplication.close card.app })

/-- What the card answers to some bytes, and where that leaves it. -/
def answer (bytes : Bytes) (card : Card η σ) : Bytes × Card η σ :=
  match card.session with
  | some chip => answerOpen bytes chip card
  | none =>
    match CommandApdu.parse bytes with
    | some wire =>
      let answered := answerClosed wire card
      (answerBytes answered.1, answered.2)
    | none => (answerBytes (StatusWord.wrongLength, []), card)

instance : Transceiver (Card η σ) where
  transceive bytes := fun card => (.ok (card.answer bytes).1, (card.answer bytes).2)

end Card

/-! ## One command -/

/-- What `transceive_cmd` makes of an answer. -/
def judge (answer : StatusWord × Bytes) : Outcome MrtdApiError ResponseApdu :=
  if answer.1 ≠ StatusWord.success then .err (.chipStatus answer.1)
  else .ok ⟨answer.1, if answer.2 = [] then none else some answer.2⟩

/-- A command as a card reads it off the wire. -/
def CommandApdu.wire (cmd : CommandApdu) : CommandApdu.Wire := ⟨cmd.rawHeader, cmd.body, cmd.ne⟩

namespace MrtdApi

/-- Without secure messaging, what comes back is judged as it is. -/
lemma transceiveCmd_answered {τ : Type} [Transceiver τ] {cmd : CommandApdu} {t t' : τ}
    {answer : StatusWord × Bytes}
    (h : Transceiver.transceive cmd.toBytes t = (.ok (answerBytes answer), t')) :
    transceiveCmd cmd ⟨t, none⟩ = (judge answer, ⟨t', none⟩) := by
  have hsend : onTransceiver (Transceiver.transceive cmd.toBytes) (MrtdApi.mk t none) =
      (.ok (answerBytes answer), ⟨t', none⟩) := by
    simp only [onTransceiver, h]
    rfl
  have hparse := ResponseApdu.fromBytes_append answer.2 answer.1
  rw [transceiveCmd, Proc.bind_apply_ok (withSm_none _ _ _), Proc.bind_apply_ok hsend, answerBytes,
    hparse, Outcome.mapErr_ok, Proc.lift_ok_bind_apply, Proc.bind_apply_ok (withSm_none _ _ _), judge]
  by_cases hstatus : answer.1 = StatusWord.success
  · rw [if_neg (not_not.mpr hstatus), if_neg (not_not.mpr hstatus)]
    rfl
  · rw [if_pos hstatus, if_pos hstatus]
    rfl

variable {η σ : Type} [CardHandshake η] [CardApplication σ]

/-- An open card serves every command within limits, and the terminal judges its answer. -/
lemma transceiveCmd_openCard {cmd : CommandApdu} (hlim : cmd.InLimits) (card : OpenCard σ) :
    transceiveCmd cmd ⟨card, none⟩ =
      (judge (CardApplication.serve cmd.wire card.app).1,
        ⟨⟨(CardApplication.serve cmd.wire card.app).2⟩, none⟩) := by
  refine transceiveCmd_answered ?_
  simp only [Transceiver.transceive, CommandApdu.parse_toBytes hlim]
  rfl

/-- Outside a session a command that the handshake has no use for is served as far as the
applications leave it open. -/
lemma transceiveCmd_closed {cmd : CommandApdu} (hlim : cmd.InLimits) {handshake : η}
    (hanswer : CardHandshake.answer cmd.wire handshake = none) (app : σ) :
    transceiveCmd cmd ⟨Card.mk handshake none app, none⟩ =
      (judge (CardApplication.serveClosed cmd.wire app).1,
        ⟨⟨handshake, none, (CardApplication.serveClosed cmd.wire app).2⟩, none⟩) := by
  refine transceiveCmd_answered ?_
  simp only [Transceiver.transceive, Card.answer, CommandApdu.parse_toBytes hlim, Card.answerClosed,
    show (⟨cmd.rawHeader, cmd.body, cmd.ne⟩ : CommandApdu.Wire) = cmd.wire from rfl, hanswer]

end MrtdApi

end Dmrtd
