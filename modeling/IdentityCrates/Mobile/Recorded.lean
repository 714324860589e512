import IdentityCrates.Mobile.Passport

/-!
# A platform under observation

A theorem about a read has to speak of what happened between the phone and the chip.  `Recorded`
puts any platform under observation: it behaves as the platform it wraps, and keeps a log of the
exchanges, with their answers, and of the challenges that were drawn.  A read is run on it from an
empty log, so that the log at the end is all that happened in this call, in order.
-/

namespace IdentityMobile

open Rust Octets
open Dmrtd (Passport)

/-- One event between the phone and the world. -/
inductive Event where
  | exchanged (apdu : Bytes) (answer : Except String Bytes)
  | drew (challenge : Except String (FixedBytes 8))

/-- Is the event an exchange that the transport lost? -/
def Event.isFault : Event → Bool
  | .exchanged _ (.error _) => true
  | _ => false

/-- Did the transport lose an exchange? -/
def faulty (log : List Event) : Bool := log.any Event.isFault

@[simp] lemma faulty_nil : faulty [] = false := rfl

@[simp] lemma faulty_append (log log' : List Event) :
    faulty (log ++ log') = (faulty log || faulty log') := List.any_append

/-- A platform and what happened on it so far. -/
structure Recorded (σ : Type) where
  platform : σ
  log : List Event

variable {σ : Type}

instance [ApduChannel σ] : ApduChannel (Recorded σ) where
  transceive apdu r :=
    ((ApduChannel.transceive apdu r.platform).1,
      ⟨(ApduChannel.transceive apdu r.platform).2,
        r.log ++ [.exchanged apdu (ApduChannel.transceive apdu r.platform).1]⟩)

instance [RandomSource σ] : RandomSource (Recorded σ) where
  fill r :=
    ((RandomSource.fill r.platform).1,
      ⟨(RandomSource.fill r.platform).2, r.log ++ [.drew (RandomSource.fill r.platform).1]⟩)

/-- The driver that a read starts with, on a platform that is observed from now on. -/
def observed (platform : σ) : Passport (Channel (Recorded σ)) := newPassport ⟨platform, []⟩

/-- What has happened so far. -/
def logOf (p : Passport (Channel (Recorded σ))) : List Event := p.api.transceiver.inner.log

/-- The flag of the channel. -/
def failedOf (p : Passport (Channel (Recorded σ))) : Bool := p.api.transceiver.transportFailed

@[simp] lemma logOf_observed (platform : σ) : logOf (observed platform) = [] := rfl

@[simp] lemma failedOf_observed (platform : σ) : failedOf (observed platform) = false := rfl

end IdentityMobile
