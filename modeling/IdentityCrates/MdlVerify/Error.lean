import Mathlib.Tactic.Basic

/-!
# Errors of the mDL verifier

`error.rs`.  The split that matters is `unreadable` (the bytes make no sense) against `tampered`
(the bytes make sense and are not what the issuer signed).
-/

namespace MdlVerify

/-- `MdlError`. -/
inductive MdlError where
  | unreadable (message : String)
  | noDocuments
  | tampered (message : String)
  | unsupportedAlgorithm (message : String)
  | missingSignerCertificate (message : String)
  | deviceAuth (message : String)
  | eReaderKeyRequired
  | anchor (message : String)
  | vical (message : String)
  | revocation (message : String)
  | nonCanonicalTranscript
  | validationDidNotComplete
  deriving DecidableEq, Repr

/-- `MdlError::to_string`. -/
def MdlError.display : MdlError → String
  | .unreadable message => s!"the device response is not well-formed: {message}"
  | .noDocuments => "the device response contains no documents"
  | .tampered message => s!"the document is not issuer-authentic: {message}"
  | .unsupportedAlgorithm message =>
    s!"the document signer's key algorithm is not supported: {message}"
  | .missingSignerCertificate message =>
    s!"the document signer certificate chain is missing or unparseable: {message}"
  | .deviceAuth message => s!"device authentication failed: {message}"
  | .eReaderKeyRequired =>
    "the document uses DeviceMac; verifying it requires the reader's ephemeral private key"
  | .anchor message => s!"the IACA trust anchor could not be parsed: {message}"
  | .vical message => s!"the VICAL could not be verified: {message}"
  | .revocation message => s!"the CRL checker could not be created: {message}"
  | .nonCanonicalTranscript =>
    "the session transcript is not deterministically encoded CBOR"
  | .validationDidNotComplete => "certificate chain validation did not complete"

/-! ## Results -/

variable {ε α β : Type} {x : Except ε α} {f : α → Except ε β}

lemma bind_eq_ok {b : β} (h : (x >>= f) = .ok b) : ∃ a, x = .ok a ∧ f a = .ok b := by
  cases x with
  | error e => cases h
  | ok a => exact ⟨a, rfl, h⟩

lemma bind_eq_error {e : ε} (h : (x >>= f) = .error e) :
    x = .error e ∨ ∃ a, x = .ok a ∧ f a = .error e := by
  cases x with
  | error e' => exact Or.inl (congrArg Except.error (Except.error.inj h))
  | ok a => exact Or.inr ⟨a, rfl, h⟩

end MdlVerify
