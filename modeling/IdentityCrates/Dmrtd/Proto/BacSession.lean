import IdentityCrates.Dmrtd.Proto.AccessKey
import IdentityCrates.Dmrtd.Proto.Bac

/-!
# The BAC session

`bac_session.rs`: the handshake as a state machine that its caller drives with `next` and
`feed_response`.  Both are methods on the session, so they are `Proc`s: what the session looks like
after a call that failed halfway is part of what they return.  `consumeResponse` takes the state out
before it runs the fallible part of a transition, as the source does with `mem::replace`.
-/

namespace Dmrtd

open Rust Octets

/-- `BacAction`. -/
inductive BacAction where
  | sendApdu (apdu : Bytes)
  | done (sm : MrtdSM)

/-- `State`. -/
inductive BacState where
  | start
  | waitingForChallenge
  | readyForExternalAuth (rndIcc : FixedBytes 8)
  | waitingForAuth (rndIcc : FixedBytes 8)
  | completed (sm : Option MrtdSM)
  | failed

/-- Is a response outstanding? -/
def BacState.isWaiting : BacState → Bool
  | .waitingForChallenge | .waitingForAuth _ => true
  | _ => false

/-- `BacSession`. -/
structure BacSession where
  key : DBAKey
  rndIfd : FixedBytes 8
  kifd : FixedBytes 16
  state : BacState

namespace BacSession

/-- `with_random_bytes`. -/
def withRandomBytes (key : DBAKey) (rndIfd : FixedBytes 8) (kifd : FixedBytes 16) : BacSession :=
  ⟨key, rndIfd, kifd, .start⟩

/-- `new`: the nonce and the key half are the next bytes of the generator. -/
def new (key : DBAKey) (entropy : Entropy) : Outcome BacError (BacSession × Entropy) :=
  if h : 24 ≤ entropy.length then
    .ok (withRandomBytes key ⟨entropy.take 8, by rw [List.length_take]; omega⟩
      ⟨(entropy.drop 8).take 16, by rw [List.length_take, List.length_drop]; omega⟩,
      entropy.drop 24)
  else .panic

variable (P : Primitives)

/-- The EXTERNAL AUTHENTICATE command that `next` builds. -/
def externalAuthenticate (self : BacSession) (rndIcc : Bytes) : Outcome BacError CommandApdu := do
  let s ← Bac.generateS self.rndIfd rndIcc self.kifd
  let kEnc := self.key.encKey P
  let kMac := self.key.macKey P
  let eIfd ← Bac.encryptS P kEnc s
  let mIfd ← Bac.macE P kMac eIfd
  let data ← Bac.generateEaData eIfd mIfd
  (CommandApdu.new Cla.noSm Ins.externalAuthenticate 0x00 0x00 (some data)
    (Bac.eLen + Bac.macLen)).mapErr fun e => BacError.mk s!"EXTERNAL AUTHENTICATE APDU: {e.text}"

/-- `next`. -/
def next : Proc BacSession BacError BacAction := do
  let self ← Proc.get
  match self.state with
  | .start => do
    let cmd ← Proc.lift ((CommandApdu.new Cla.noSm Ins.getChallenge 0x00 0x00 none
      Bac.nonceLen).mapErr fun e => BacError.mk s!"GET CHALLENGE APDU: {e.text}")
    Proc.set { self with state := .waitingForChallenge }
    return .sendApdu cmd.toBytes
  | .readyForExternalAuth rndIcc => do
    let cmd ← Proc.lift (self.externalAuthenticate P rndIcc)
    Proc.set { self with state := .waitingForAuth rndIcc }
    return .sendApdu cmd.toBytes
  | .completed none => Proc.fail ⟨"BAC session already consumed"⟩
  | .completed (some sm) => do
    Proc.set { self with state := .completed none }
    return .done sm
  | .waitingForChallenge | .waitingForAuth _ =>
    Proc.fail ⟨"BAC session is waiting for a response; call feed_response first"⟩
  | .failed => Proc.fail ⟨"BAC session has failed and cannot continue"⟩

/-- `handle_challenge`. -/
def handleChallenge (data : Bytes) : Outcome BacError (FixedBytes 8) :=
  if h : data.length = 8 then .ok ⟨data, h⟩
  else .err ⟨s!"Expected 8-byte challenge, got {data.length}"⟩

/-- `handle_auth`. -/
def handleAuth (self : BacSession) (data : Bytes) (rndIcc : FixedBytes 8) :
    Outcome BacError MrtdSM := do
  if data.length ≠ Bac.eLen + Bac.macLen then
    .err ⟨s!"Expected {Bac.eLen + Bac.macLen} bytes for external-auth response, got {data.length}"⟩
  else do
    let pair ← Bac.extractEiccAndMicc data
    let kEnc := self.key.encKey P
    let kMac := self.key.macKey P
    let verified ← Bac.verifyEicc P pair.1 kMac pair.2
    if ¬ verified then .err ⟨"Verifying MAC of E.IC failed"⟩
    else do
      let r ← Bac.decryptEIcc P kEnc pair.1
      let kicc ← Bac.verifyRndIfdAndExtractKicc self.rndIfd r
      let ks ← Bac.calculateSessionKeys P self.kifd kicc
      let ssc ← Bac.calculateSsc self.rndIfd rndIcc
      Bac.establishSm P ks.1 ks.2 ssc

/-- The body of a successful response, as `consume_response` checks it. -/
def responseData (response : Bytes) : Outcome BacError Bytes := do
  let rapdu ← (ResponseApdu.fromBytes response).mapErr fun e =>
    BacError.mk s!"Invalid response APDU: {e.text}"
  if rapdu.status ≠ StatusWord.success then
    .err ⟨s!"BAC step failed with status {rapdu.status.text}"⟩
  else Outcome.ofOption ⟨"Empty response data"⟩ rapdu.data

/-- `consume_response`. -/
def consumeResponse (response : Bytes) : Proc BacSession BacError Unit := do
  let data ← Proc.lift (responseData response)
  let self ← Proc.get
  -- the state is taken out here and put back only on success
  Proc.set { self with state := .start }
  match self.state with
  | .waitingForChallenge => do
    let rndIcc ← Proc.lift (handleChallenge data)
    Proc.set { self with state := .readyForExternalAuth rndIcc }
  | .waitingForAuth rndIcc => do
    let sm ← Proc.lift (self.handleAuth P data rndIcc)
    Proc.set { self with state := .completed (some sm) }
  | _ => Proc.lift .panic

/-- `feed_response`. -/
def feedResponse (response : Bytes) : Proc BacSession BacError Unit := fun self =>
  if self.state.isWaiting = false then
    (.err ⟨"BAC session has no outstanding APDU to consume"⟩, self)
  else
    match consumeResponse P response self with
    | (.err e, self') => (.err e, { self' with state := .failed })
    | result => result

end BacSession

end Dmrtd
