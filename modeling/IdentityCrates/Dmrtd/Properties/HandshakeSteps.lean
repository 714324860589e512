import IdentityCrates.Dmrtd.Proto.Card
import IdentityCrates.Dmrtd.Proto.MrtdApiSession

/-!
# A handshake with a card, exchange by exchange

Both handshakes are driven the same way: the session asks for a command, the card answers it, the
session takes the answer.  Where each of the three goes through, the exchange takes the session and
the card on together (`Passes`), and the loop of the driver with them.
-/

namespace Dmrtd

open Rust Octets

variable {ς ε η σ : Type} [CardHandshake η] [CardApplication σ]

/-- The session asks for a command, the card answers it with success, and the session accepts the
answer; the card may have opened a session by that. -/
def Passes (party : Dialogue.Party ς ε Bytes Bytes MrtdSM) (s : ς) (handshake : η) (s' : ς)
    (handshake' : η) (session : Option Chip) : Prop :=
  ∃ (cmd : CommandApdu) (s₁ : ς) (data : Bytes), cmd.InLimits ∧
    party.next s = (.ok (.inl cmd.toBytes), s₁) ∧
    CardHandshake.answer cmd.wire handshake =
      some ((StatusWord.success, data), handshake', session) ∧
    party.feed (answerBytes (StatusWord.success, data)) s₁ = (.ok (), s')

namespace MrtdApi

/-- A command of the handshake, outside a session. -/
lemma exchange_handshake {cmd : CommandApdu} (hlim : cmd.InLimits) {handshake handshake' : η}
    {answer : StatusWord × Bytes} {session : Option Chip} (app : σ) (sm : Option MrtdSM)
    (h : CardHandshake.answer cmd.wire handshake = some (answer, handshake', session)) :
    exchange cmd.toBytes (MrtdApi.mk (Card.mk handshake none app) sm) =
      (.ok (answerBytes answer), ⟨⟨handshake', session, app⟩, sm⟩) := by
  simp only [exchange, onTransceiver, Transceiver.transceive, Card.answer,
    CommandApdu.parse_toBytes hlim, Card.answerClosed, show (⟨cmd.rawHeader, cmd.body, cmd.ne⟩ : CommandApdu.Wire) = cmd.wire from rfl,
    h]
  rfl

/-- The loop goes on with the session and the card after the exchange. -/
lemma drive_passes {party : Dialogue.Party ς ε Bytes Bytes MrtdSM} {s s' : ς}
    {handshake handshake' : η} {session : Option Chip}
    (h : Passes party s handshake s' handshake' session) (wrap : ε → MrtdApiError) (app : σ)
    (sm : Option MrtdSM) :
    party.drive exchange wrap s (MrtdApi.mk (Card.mk handshake none app) sm) =
      party.drive exchange wrap s' (MrtdApi.mk (Card.mk handshake' session app) sm) := by
  obtain ⟨cmd, s₁, data, hlim, hnext, hanswer, hfeed⟩ := h
  exact party.drive_exchange hnext (exchange_handshake hlim app sm hanswer) hfeed

end MrtdApi

end Dmrtd
