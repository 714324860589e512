import IdentityCrates.Dmrtd.Proto.BacSession
import IdentityCrates.Dmrtd.Proto.Card

/-!
# The chip of basic access control

The card's side of the handshake, after ICAO 9303-11, section 4.3: it is not part of the source.
The chip holds the key that is printed on the document, answers GET CHALLENGE with a nonce, and to
EXTERNAL AUTHENTICATE proves in its turn that it knows the key, after which the session is open.

It computes with the same helpers as the terminal: `R` is built as `S` is, with the two nonces the
other way round, and the check that the terminal's `S` repeats the nonce of the chip is the check
that `R` repeats the nonce of the terminal.
-/

namespace Dmrtd

open Rust Octets

/-- The chip: its key, the random bytes that it will draw, and the challenge it has given out. -/
structure BacChip (P : Primitives) where
  key : DBAKey
  entropy : Entropy
  challenge : Option (FixedBytes 8)

namespace BacChip

variable {P : Primitives}

/-- Authentication failed. -/
def authenticationFailed : StatusWord := ⟨0x63, 0x00⟩

/-- Conditions of use not satisfied. -/
def conditionsNotSatisfied : StatusWord := ⟨0x69, 0x85⟩

/-- No precise diagnosis. -/
def noPreciseDiagnosis : StatusWord := ⟨0x6F, 0x00⟩

/-- Mutual authentication: check what the terminal sent, answer in kind, and open the session. -/
def mutualAuthenticate (P : Primitives) (key : DBAKey) (rndIcc : FixedBytes 8)
    (kicc : FixedBytes 16) (data : Bytes) : Outcome BacError (Bytes × Chip) := do
  let pair ← Bac.extractEiccAndMicc data
  let verified ← Bac.verifyEicc P pair.1 (key.macKey P) pair.2
  if ¬ verified then .err ⟨"Verifying MAC of E.IFD failed"⟩
  else do
    let s ← Bac.decryptEIcc P (key.encKey P) pair.1
    let kifd ← Bac.verifyRndIfdAndExtractKicc rndIcc s
    let rndIfd := s.take Bac.nonceLen
    let r ← Bac.generateS rndIcc rndIfd kicc
    let eIcc ← Bac.encryptS P (key.encKey P) r
    let mIcc ← Bac.macE P (key.macKey P) eIcc
    let answer ← Bac.generateEaData eIcc mIcc
    let ks ← Bac.calculateSessionKeys P kifd kicc
    let ssc ← Bac.calculateSsc rndIfd rndIcc
    let sm ← Bac.establishSm P ks.1 ks.2 ssc
    return (answer, ⟨sm.cipher, sm.ssc⟩)

/-- GET CHALLENGE. -/
def getChallenge (self : BacChip P) : (StatusWord × Bytes) × BacChip P × Option Chip :=
  if h : 8 ≤ self.entropy.length then
    ((StatusWord.success, self.entropy.take 8),
      { self with
        entropy := self.entropy.drop 8
        challenge := some ⟨self.entropy.take 8, by rw [List.length_take]; omega⟩ }, none)
  else ((noPreciseDiagnosis, []), self, none)

/-- EXTERNAL AUTHENTICATE.  A challenge is good for one attempt. -/
def externalAuthenticate (data : Bytes) (self : BacChip P) :
    (StatusWord × Bytes) × BacChip P × Option Chip :=
  match self.challenge with
  | none => ((conditionsNotSatisfied, []), self, none)
  | some rndIcc =>
    if h : 16 ≤ self.entropy.length then
      let kicc : FixedBytes 16 := ⟨self.entropy.take 16, by rw [List.length_take]; omega⟩
      let self' := { self with entropy := self.entropy.drop 16, challenge := none }
      match mutualAuthenticate P self.key rndIcc kicc data with
      | .ok (answer, chip) => ((StatusWord.success, answer), self', some chip)
      | _ => ((authenticationFailed, []), self', none)
    else ((noPreciseDiagnosis, []), { self with challenge := none }, none)

instance : CardHandshake (BacChip P) where
  answer wire self :=
    if wire.ins = Ins.getChallenge then some self.getChallenge
    else if wire.ins = Ins.externalAuthenticate then some (self.externalAuthenticate wire.body)
    else none

end BacChip

end Dmrtd
