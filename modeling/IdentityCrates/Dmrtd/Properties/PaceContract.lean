import IdentityCrates.Lib.Dialogue
import IdentityCrates.Dmrtd.Proto.PaceSession

/-!
# What a PACE session may say, and when

The caller drives a `PaceSession` with `next` and `feed_response` in any order and with any response
bytes.  The session is meant to emit MSE:Set AT, the four GENERAL AUTHENTICATE commands and Done,
once each and in this order, and a call that fails is meant to leave it where it was.

It does so as long as no call fails between taking the state out and putting the next one back.
`PaceSession.accepts` says when that is: of a response, that its body passes the checks of the step
it answers; of `next`, that the engine can deliver.  A call that fails for any other reason (a
status word, a malformed APDU, a call out of turn) changes nothing.  Over runs that stay within
`accepts` the contract holds (`PaceSession.paceSession_contract`); outside it, one bad body sends
the session back to the start of the protocol (`PaceSession.emits_mseSetAt_twice`).

What is emitted is read off the wire, by the instruction byte and the tags a card would read.
-/

namespace Dmrtd

open Rust Octets

/-- The steps of the handshake. -/
inductive PaceStep where
  | mseSetAt
  | nonce
  | map
  | keyAgreement
  | mutualAuth
  | done
  deriving DecidableEq, Repr

namespace PaceStep

/-- The handshake, in order. -/
def all : List PaceStep := [mseSetAt, nonce, map, keyAgreement, mutualAuth, done]

/-- The step that the data field of a GENERAL AUTHENTICATE command belongs to: what is inside the
dynamic authentication data. -/
def ofData (data : Bytes) : Option PaceStep :=
  match Tlv.fromBytes data with
  | .ok outer =>
    if outer.tag ≠ 0x7C then none
    else if outer.value = [] then some nonce
    else
      match Tlv.fromBytes outer.value with
      | .ok inner =>
        if inner.tag = 0x81 then some map
        else if inner.tag = 0x83 then some keyAgreement
        else if inner.tag = 0x85 then some mutualAuth
        else none
      | _ => none
  | _ => none

/-- The step that a command belongs to. -/
def ofApdu (apdu : Bytes) : Option PaceStep :=
  match CommandApdu.parse apdu with
  | some ⟨[_, ins, _, _], body, _⟩ =>
    if ins = Ins.manageSecurityEnvironment then some mseSetAt
    else if ins = Ins.generalAuthenticate then ofData body
    else none
  | _ => none

/-- The step that an action belongs to. -/
def ofAction : PaceAction → Option PaceStep
  | .sendApdu apdu => ofApdu apdu
  | .done _ => some done

/-- No data field is read as Done. -/
lemma ofData_ne_done (data : Bytes) : ofData data ≠ some done := by
  unfold ofData
  repeat' split
  all_goals simp

/-- Only Done is emitted as Done. -/
lemma eq_done_of_emits {reply : Dialogue.Reply PaceSessionError PaceAction}
    (h : reply.emits ofAction = some (some done)) : ∃ sm, reply = .action (.ok (.done sm)) := by
  rcases reply with (a | e | _) | result
  · cases a with
    | done sm => exact ⟨sm, rfl⟩
    | sendApdu apdu =>
      rw [Dialogue.Reply.emits_action_ok, Option.some.injEq, ofAction, ofApdu] at h
      split at h
      · split at h
        · simp at h
        · split at h
          · exact absurd h (ofData_ne_done _)
          · simp at h
      · simp at h
  all_goals simp [Dialogue.Reply.emits] at h

end PaceStep

/-- The steps that a session in this state has emitted. -/
def PaceState.emitted : PaceState → List PaceStep
  | .start => []
  | .waitingForMseSetAt | .readyForStep1 => [.mseSetAt]
  | .waitingForStep1 | .readyForStep2 _ => [.mseSetAt, .nonce]
  | .waitingForStep2 _ | .readyForStep3 => [.mseSetAt, .nonce, .map]
  | .waitingForStep3 | .readyForStep4 .. => [.mseSetAt, .nonce, .map, .keyAgreement]
  | .waitingForStep4 .. | .completed (some _) =>
    [.mseSetAt, .nonce, .map, .keyAgreement, .mutualAuth]
  | .completed none => PaceStep.all

lemma PaceState.emitted_prefix (s : PaceState) : s.emitted <+: PaceStep.all := by
  rw [List.prefix_iff_eq_take]
  cases s with
  | completed slot => cases slot <;> rfl
  | _ => rfl

/-! ## Commands on the wire -/

namespace PaceSession

lemma generalAuthenticate_eq_ok {cla : UInt8} {data : Bytes} {ne : Nat} {cmd : CommandApdu}
    (h : generalAuthenticate cla data ne = .ok cmd) :
    PaceStep.ofApdu cmd.toBytes = PaceStep.ofData data := by
  obtain ⟨rfl, hlimits⟩ := CommandApdu.new_eq_ok.mp (Outcome.mapErr_eq_ok.mp h)
  rw [PaceStep.ofApdu, CommandApdu.parse_toBytes hlimits]
  rfl

lemma generalAuthenticate_isOk (cla : UInt8) {data : Bytes} {ne : Nat}
    (hdata : data.length ≤ 0xFFFF) (hne : ne ≤ 65536) :
    ∃ cmd, generalAuthenticate cla data ne = .ok cmd :=
  ⟨⟨cla, Ins.generalAuthenticate, 0x00, 0x00, some data, ne⟩,
    Outcome.mapErr_eq_ok.mpr (CommandApdu.new_eq_ok.mpr ⟨rfl, hdata, hne⟩)⟩

/-- Data wrapped in two layers, as every GENERAL AUTHENTICATE command after the first sends it. -/
lemma ofData_encode {ε : Type} {tag : Nat} {value inner data : Bytes} (htag : Tlv.IsSingleByte tag)
    (hinner : (Tlv.encode tag value : Outcome ε Bytes) = .ok inner)
    (hdata : (Tlv.encode 0x7C inner : Outcome ε Bytes) = .ok data) :
    PaceStep.ofData data =
      if tag = 0x81 then some .map
      else if tag = 0x83 then some .keyAgreement
      else if tag = 0x85 then some .mutualAuth
      else none := by
  have hne : inner ≠ [] := by
    obtain ⟨l, -, rfl⟩ := Tlv.encode_eq_ok.mp hinner
    simp [Tlv.encodeTag_of_lt htag.1]
  rw [PaceStep.ofData, Tlv.fromBytes_encode (by decide) hdata]
  simp only [ne_eq, not_true_eq_false, if_false, hne, Tlv.fromBytes_encode htag hinner]

/-- Two layers around a short value fit in a command. -/
lemma encode_twice_isOk {ε : Type} {tag : Nat} {value : Bytes} (htag : tag < 256)
    (hlen : value.length ≤ 0xFF00) :
    ∃ inner data, (Tlv.encode tag value : Outcome ε Bytes) = .ok inner ∧
      (Tlv.encode 0x7C inner : Outcome ε Bytes) = .ok data ∧ data.length ≤ 0xFFFF := by
  obtain ⟨inner, hinner⟩ := @Tlv.encode_isOk ε tag value (by omega)
  have hinnerLen := Tlv.length_encode_le htag hinner
  obtain ⟨data, hdata⟩ := @Tlv.encode_isOk ε 0x7C inner (by omega)
  have hdataLen := Tlv.length_encode_le (by decide) hdata
  exact ⟨inner, data, hinner, hdata, by omega⟩

lemma step1Command_isOk :
    ∃ cmd, step1Command = .ok cmd ∧ PaceStep.ofApdu cmd.toBytes = some .nonce := by
  obtain ⟨data, hdata⟩ := @Tlv.encode_isOk PaceSessionError 0x7C [] (by decide)
  have hlen := Tlv.length_encode_le (by decide) hdata
  rw [List.length_nil] at hlen
  obtain ⟨cmd, hcmd⟩ := @generalAuthenticate_isOk Cla.commandChaining data 256 (by omega)
    (by decide)
  refine ⟨cmd, ?_, ?_⟩
  · rw [step1Command, Pace.generateGeneralAuthenticateDataStep1, hdata, Outcome.ok_bind]
    exact hcmd
  · rw [generalAuthenticate_eq_ok hcmd, PaceStep.ofData, Tlv.fromBytes_encode (by decide) hdata]
    rfl

variable {P : Primitives}

/-- A public key of ordinary size is sent as mapping data or as an ephemeral key. -/
lemma publicKeyCommand_isOk {engine : PaceEngine P} {pub : PublicKeyPace} (isEphemeral : Bool)
    (hlen : (Pace.publicKeyValue pub).length ≤ 0xFF00) :
    ∃ data cmd, Pace.generateGeneralAuthenticateDataStep2Or3 (ε := PaceSessionError) pub isEphemeral =
        .ok data ∧
      generalAuthenticate Cla.commandChaining data engine.pubkeyResponseLe = .ok cmd ∧
      PaceStep.ofApdu cmd.toBytes = some (if isEphemeral then .keyAgreement else .map) := by
  have htag : Tlv.IsSingleByte (if isEphemeral then 0x83 else 0x81) := by
    cases isEphemeral <;> decide
  obtain ⟨inner, data, hinner, hdata, hdlen⟩ :=
    @encode_twice_isOk PaceSessionError _ (Pace.publicKeyValue pub) htag.1 hlen
  have hle : engine.pubkeyResponseLe ≤ 65536 := by
    cases engine with
    | ecdh e => exact (by decide : 256 ≤ 65536)
    | dh e =>
      simp only [PaceEngine.pubkeyResponseLe]
      split <;> decide
  obtain ⟨cmd, hcmd⟩ := generalAuthenticate_isOk Cla.commandChaining hdlen hle
  refine ⟨data, cmd, ?_, hcmd, ?_⟩
  · rw [Pace.generateGeneralAuthenticateDataStep2Or3, hinner, Outcome.ok_bind]
    exact hdata
  · rw [generalAuthenticate_eq_ok hcmd, ofData_encode htag hinner hdata]
    cases isEphemeral <;> rfl

end PaceSession

/-! ## Engines deliver keys of ordinary size -/

/-- Both key pairs of a DH engine are in its group, and the group is no larger than 2048 bits. -/
structure DHPace.Fits (engine : DHPace) : Prop where
  p_pos : 0 < engine.domainSpec.p
  p_lt : engine.domainSpec.p < 256 ^ 256
  engine_p : ∀ e, engine.engine = some e → e.parameterSpec.p = engine.domainSpec.p
  ephemeral_p : ∀ e, engine.ephemeral = some e → e.parameterSpec.p = engine.domainSpec.p

/-- The engine works in one group throughout. -/
def PaceEngine.Fits {P : Primitives} : PaceEngine P → Prop
  | .ecdh _ => True
  | .dh e => e.Fits

namespace DHPace

lemma length_publicKey {self : DHPace} (h : self.Fits) {e : DHpkcs3Engine}
    (he : e.parameterSpec.p = self.domainSpec.p) : (bigUintToBytes e.publicKey).length ≤ 0xFF00 := by
  have hlt : e.publicKey < 256 ^ 256 := by
    rw [e.publicKey_eq, he]
    exact (ModPow.modPow_lt h.p_pos).trans h.p_lt
  rw [length_bigUintToBytes]
  exact ((byteCount_le_iff _ _).mpr hlt).trans (by decide)

lemma generateKeyPair_eq_ok {self : DHPace} {entropy : Entropy} {drawn : DHPace × Entropy}
    (h : self.generateKeyPair entropy = .ok drawn) :
    ∃ e, e.parameterSpec = self.domainSpec ∧ drawn.1 = { self with engine := some e } := by
  obtain ⟨e, he, hdrawn⟩ := Outcome.bind_eq_ok.mp h
  rw [Outcome.pure_eq, Outcome.ok.injEq] at hdrawn
  obtain ⟨e, rest⟩ := e
  exact ⟨e, DHpkcs3Engine.new_eq_ok (Outcome.mapErr_eq_ok.mp he), by rw [← hdrawn]⟩

lemma generateEphemeral_eq_ok {self : DHPace} {g : Nat} {entropy : Entropy}
    {drawn : DHPace × Entropy}
    (h : self.generateEphemeralWithCustomGenerator g entropy = .ok drawn) :
    ∃ e, e.parameterSpec = { self.domainSpec with g := g } ∧
      drawn.1 = { self with ephemeral := some e } := by
  obtain ⟨e, he, hdrawn⟩ := Outcome.bind_eq_ok.mp h
  rw [Outcome.pure_eq, Outcome.ok.injEq] at hdrawn
  obtain ⟨e, rest⟩ := e
  exact ⟨e, DHpkcs3Engine.new_eq_ok (Outcome.mapErr_eq_ok.mp he), by rw [← hdrawn]⟩

end DHPace

namespace EcdhEngine

variable {P : Primitives} {c : NamedCurve}

lemma length_pointToPubkeyPace {point : (P.curve c).Point} {pub : PublicKeyPace}
    (h : pointToPubkeyPace point = .ok pub) : (Pace.publicKeyValue pub).length ≤ 0xFF00 := by
  obtain ⟨hpoint, rfl⟩ := pointToPubkeyPace_eq_ok.mp h
  obtain ⟨hx, hy⟩ := (P.curve c).coords_lt point hpoint
  rw [P.curve_coordLen c] at hx hy
  rw [Pace.length_publicKeyValue_ecdh hx hy]
  cases c <;> decide

lemma generateKeyPair_eq_ok {self : EcdhEngine P c} {entropy : Entropy}
    {drawn : EcdhEngine P c × Entropy} (h : self.generateKeyPair entropy = .ok drawn) :
    ∃ sk : SecretKey P c, drawn.1 =
      { self with pubKey := some (sk.scalar • (P.curve c).generator), privKey := some sk } := by
  obtain ⟨sk, -, hdrawn⟩ := Outcome.bind_eq_ok.mp h
  rw [Outcome.pure_eq, Outcome.ok.injEq] at hdrawn
  exact ⟨sk.1, by rw [← hdrawn]⟩

end EcdhEngine

namespace PaceEngine

variable {P : Primitives}

/-- After the main pair is drawn its public key can be sent. -/
lemma generateMainKeyPair_eq_ok {engine : PaceEngine P} {entropy : Entropy}
    {drawn : PaceEngine P × Entropy} (hfits : engine.Fits)
    (h : engine.generateMainKeyPair entropy = .ok drawn) :
    drawn.1.Fits ∧ ∃ pub, drawn.1.mainPubKey = .ok pub ∧
      (Pace.publicKeyValue pub).length ≤ 0xFF00 := by
  cases engine with
  | ecdh e =>
    obtain ⟨pair, hpair, hdrawn⟩ := Outcome.bind_eq_ok.mp h
    obtain ⟨sk, hsk⟩ := EcdhEngine.generateKeyPair_eq_ok (Outcome.mapErr_eq_ok.mp hpair)
    rw [Outcome.pure_eq, Outcome.ok.injEq] at hdrawn
    have hne := (P.curve e.curve).nsmul_ne_zero (P.curve e.curve).generator_ne_zero sk.scalar_pos
      sk.scalar_lt
    have hpub := EcdhEngine.pointToPubkeyPace_of_ne_zero hne
    refine ⟨by rw [← hdrawn]; trivial, _, ?_, EcdhEngine.length_pointToPubkeyPace hpub⟩
    rw [← hdrawn, hsk]
    exact Outcome.mapErr_eq_ok.mpr hpub
  | dh e =>
    obtain ⟨pair, hpair, hdrawn⟩ := Outcome.bind_eq_ok.mp h
    obtain ⟨engine, hspec, hnext⟩ := DHPace.generateKeyPair_eq_ok (Outcome.mapErr_eq_ok.mp hpair)
    rw [Outcome.pure_eq, Outcome.ok.injEq] at hdrawn
    have hp : engine.parameterSpec.p = e.domainSpec.p := congrArg DhParameterSpec.p hspec
    rw [← hdrawn, hnext]
    refine ⟨⟨hfits.p_pos, hfits.p_lt, ?_, hfits.ephemeral_p⟩, .dh (bigUintToBytes engine.publicKey),
      rfl, DHPace.length_publicKey hfits hp⟩
    intro e' he'
    rw [← Option.some.inj he']
    exact hp

/-- So can the ephemeral one, wherever there is one. -/
lemma length_ephemeralPubKey {engine : PaceEngine P} {pub : PublicKeyPace} (hfits : engine.Fits)
    (h : engine.ephemeralPubKey = .ok pub) : (Pace.publicKeyValue pub).length ≤ 0xFF00 := by
  cases engine with
  | ecdh e =>
    obtain ⟨point, -, hpoint⟩ := Outcome.bind_eq_ok.mp (Outcome.mapErr_eq_ok.mp h)
    exact EcdhEngine.length_pointToPubkeyPace hpoint
  | dh e =>
    obtain ⟨pk, hpk, hpub⟩ := Outcome.bind_eq_ok.mp (Outcome.mapErr_eq_ok.mp h)
    obtain ⟨engine, hengine, rfl⟩ := Option.map_eq_some_iff.mp (Outcome.ofOption_eq_ok.mp hpk)
    rw [Outcome.pure_eq, Outcome.ok.injEq] at hpub
    rw [← hpub]
    exact DHPace.length_publicKey hfits (hfits.ephemeral_p _ hengine)

lemma fits_mapAndGenerateEphemeral {engine : PaceEngine P} {pub : PublicKeyPace} {nonce : Bytes}
    {entropy : Entropy} {drawn : PaceEngine P × Entropy} (hfits : engine.Fits)
    (h : engine.mapAndGenerateEphemeral pub nonce entropy = .ok drawn) : drawn.1.Fits := by
  cases engine with
  | ecdh e =>
    obtain ⟨pair, -, hdrawn⟩ := Outcome.bind_eq_ok.mp h
    rw [Outcome.pure_eq, Outcome.ok.injEq] at hdrawn
    rw [← hdrawn]
    trivial
  | dh e =>
    obtain ⟨gPrime, -, h⟩ := Outcome.bind_eq_ok.mp h
    obtain ⟨pair, hpair, hdrawn⟩ := Outcome.bind_eq_ok.mp h
    obtain ⟨ephemeral, hspec, hnext⟩ :=
      DHPace.generateEphemeral_eq_ok (Outcome.mapErr_eq_ok.mp hpair)
    rw [Outcome.pure_eq, Outcome.ok.injEq] at hdrawn
    rw [← hdrawn, hnext]
    refine ⟨hfits.p_pos, hfits.p_lt, hfits.engine_p, ?_⟩
    intro e' he'
    change e'.parameterSpec.p = e.domainSpec.p
    rw [← Option.some.inj he', hspec]

end PaceEngine

/-! ## What one call can do -/

/-- The session keys at hand have the length that the cipher needs. -/
def PaceState.KeysFit (len : Nat) : PaceState → Prop
  | .readyForStep4 _ kEnc kMac | .waitingForStep4 kEnc kMac =>
    kEnc.length = len ∧ kMac.length = len
  | _ => True

namespace PaceSession

variable {P : Primitives} {κ : Type} [AccessKey κ]

/-- What every reachable session satisfies. -/
structure Wf (session : PaceSession P κ) : Prop where
  aes : session.protocol.cipherAlgorithm = .aes
  engine : session.engine.Fits
  keys : session.state.KeysFit session.protocol.keyLength.byteSize

/-- Serve one call. -/
def step : Dialogue.Call Bytes → PaceSession P κ →
    Dialogue.Reply PaceSessionError PaceAction × PaceSession P κ :=
  Dialogue.step next feedResponse

@[simp] lemma step_next (self : PaceSession P κ) :
    step .next self = (.action (next self).1, (next self).2) := rfl

@[simp] lemma step_feed (response : Bytes) (self : PaceSession P κ) :
    step (.feed response) self = (.fed (feedResponse response self).1, (feedResponse response self).2) :=
  rfl

/-- The response carries the token that the terminal computes over its own ephemeral key. -/
def TokenMatches (session : PaceSession P κ) (response : Bytes) : Prop :=
  ∃ body token pub kEnc kMac,
    ResponseApdu.fromBytes response = .ok ⟨StatusWord.success, some body⟩ ∧
    Pace.parseStep4Response body = .ok token ∧
    session.state = .waitingForStep4 kEnc kMac ∧
    session.engine.ephemeralPubKey = .ok pub ∧
    authToken P session.protocol pub kMac = .ok token

/-- The body of a successful response passes the checks of the step it answers. -/
def acceptsBody (session : PaceSession P κ) (body : Option Bytes) : Bool :=
  match session.state with
  | .waitingForStep1 => body.any fun data =>
    (Pace.parseStep1Response data).isOkAnd fun encryptedNonce =>
      (Pace.decryptNonce P session.protocol encryptedNonce session.key).isOk
  | .waitingForStep2 nonce => body.any fun data =>
    (Pace.parseStep2Or3Response data session.protocol.tokenAgreementAlgorithm).isOkAnd fun pub =>
      (session.engine.mapAndGenerateEphemeral pub nonce session.entropy).isOk
  | .waitingForStep3 => body.any fun data =>
    (Pace.parseStep2Or3Response data session.protocol.tokenAgreementAlgorithm).isOkAnd fun pub =>
      (session.engine.ephemeralSharedSeed pub).isOk
  | .waitingForStep4 _ kMac => body.any fun data =>
    (Pace.parseStep4Response data).isOkAnd fun token =>
      session.engine.ephemeralPubKey.isOkAnd fun pub =>
        decide (authToken P session.protocol pub kMac = .ok token)
  | _ => true

/-- The call does not fail once the state has been taken out.  `next` needs the engine to deliver a
key, and in step 4 the chip's key to be short enough to encode; a successful response needs a body
that passes the checks of its step. -/
def accepts (session : PaceSession P κ) : Dialogue.Call Bytes → Bool
  | .next =>
    match session.state with
    | .readyForStep2 _ => (session.engine.generateMainKeyPair session.entropy).isOk
    | .readyForStep3 => session.engine.ephemeralPubKey.isOk
    | .readyForStep4 iccEphemeralPub _ _ =>
      (Pace.generateEncodingInputData session.protocol iccEphemeralPub :
        Outcome PaceSessionError Bytes).isOk
    | _ => true
  | .feed response =>
    match ResponseApdu.fromBytes response with
    | .ok rapdu => if rapdu.status = StatusWord.success then session.acceptsBody rapdu.data else true
    | _ => true

lemma mseSetAt_eq_ok {self : PaceSession P κ} {cmd : CommandApdu} (h : self.mseSetAt = .ok cmd) :
    PaceStep.ofApdu cmd.toBytes = some .mseSetAt := by
  obtain ⟨data, -, h⟩ := Outcome.bind_eq_ok.mp h
  obtain ⟨rfl, hlimits⟩ := CommandApdu.new_eq_ok.mp (Outcome.mapErr_eq_ok.mp h)
  rw [PaceStep.ofApdu, CommandApdu.parse_toBytes hlimits]
  rfl

lemma step2Command_isOk {engine : PaceEngine P} {pub : PublicKeyPace}
    (hpub : engine.mainPubKey = .ok pub) (hlen : (Pace.publicKeyValue pub).length ≤ 0xFF00) :
    ∃ cmd, step2Command engine = .ok cmd ∧ PaceStep.ofApdu cmd.toBytes = some .map := by
  obtain ⟨data, cmd, hdata, hcmd, hclass⟩ := @publicKeyCommand_isOk P engine pub false hlen
  refine ⟨cmd, ?_, hclass⟩
  rw [step2Command, hpub, Outcome.ok_bind, hdata, Outcome.ok_bind, hcmd]

lemma step3Command_isOk {engine : PaceEngine P} {pub : PublicKeyPace}
    (hpub : engine.ephemeralPubKey = .ok pub) (hlen : (Pace.publicKeyValue pub).length ≤ 0xFF00) :
    ∃ cmd, step3Command engine = .ok cmd ∧ PaceStep.ofApdu cmd.toBytes = some .keyAgreement := by
  obtain ⟨data, cmd, hdata, hcmd, hclass⟩ := @publicKeyCommand_isOk P engine pub true hlen
  refine ⟨cmd, ?_, hclass⟩
  rw [step3Command, hpub, Outcome.ok_bind, hdata, Outcome.ok_bind, hcmd]

/-- With a MAC key of the right length the token over a key that can be encoded is eight bytes. -/
lemma authToken_isOk {protocol : OiePaceProtocol} {pub : PublicKeyPace} {kMac input : Bytes}
    (haes : protocol.cipherAlgorithm = .aes) (hkey : kMac.length = protocol.keyLength.byteSize)
    (hinput : (Pace.generateEncodingInputData protocol pub : Outcome PaceSessionError Bytes) =
      .ok input) :
    authToken P protocol pub kMac = .ok ((P.cmac kMac input).take 8) := by
  rw [authToken, hinput, Outcome.ok_bind, Pace.calculateAuthToken_aes P haes hkey,
    Outcome.mapErr_ok]

omit [AccessKey κ] in
lemma step4Command_isOk (self : PaceSession P κ) {pub : PublicKeyPace} {kMac : Bytes}
    (haes : self.protocol.cipherAlgorithm = .aes)
    (hkey : kMac.length = self.protocol.keyLength.byteSize)
    (hinput : (Pace.generateEncodingInputData self.protocol pub :
      Outcome PaceSessionError Bytes).isOk = true) :
    ∃ cmd, self.step4Command pub kMac = .ok cmd ∧
      PaceStep.ofApdu cmd.toBytes = some .mutualAuth := by
  obtain ⟨input, hinput⟩ := Outcome.isOk_iff.mp hinput
  have htoken := authToken_isOk (P := P) haes hkey hinput
  have hlen : ((P.cmac kMac input).take 8).length ≤ 0xFF00 := by
    rw [List.length_take]
    omega
  obtain ⟨inner, data, hinner, hdata, hdlen⟩ :=
    @encode_twice_isOk PaceSessionError 0x85 _ (by decide) hlen
  obtain ⟨cmd, hcmd⟩ := @generalAuthenticate_isOk Cla.noSm data 256 hdlen (by decide)
  refine ⟨cmd, ?_, ?_⟩
  · rw [step4Command, htoken, Outcome.ok_bind, Pace.generateGeneralAuthenticateDataStep4, hinner,
      Outcome.ok_bind, hdata, Outcome.ok_bind, hcmd]
  · rw [generalAuthenticate_eq_ok hcmd, ofData_encode (by decide) hinner hdata]
    rfl

/-- What an admitted `next` does: it sends the next command, hands over the session, or fails and
leaves everything as it was. -/
lemma next_cases {self : PaceSession P κ} (hwf : self.Wf) (hacc : self.accepts .next = true) :
    (∃ apdu step self', next self = (.ok (.sendApdu apdu), self') ∧
      PaceStep.ofApdu apdu = some step ∧ self'.state.emitted = self.state.emitted ++ [step] ∧
      self'.Wf ∧ ∀ sm, self'.state ≠ .completed (some sm)) ∨
    (∃ sm, self.state = .completed (some sm) ∧
      next self = (.ok (.done sm), { self with state := .completed none })) ∨
    (∃ result, result.isOk = false ∧ next self = (result, self)) := by
  obtain ⟨haes, hengine, hkeys⟩ := hwf
  obtain ⟨key, protocol, engine, parameterId, entropy, state⟩ := self
  cases state with
  | start =>
    rcases hcmd : mseSetAt (P := P) ⟨key, protocol, engine, parameterId, entropy, .start⟩ with
      cmd | e | _
    · refine .inl ⟨cmd.toBytes, .mseSetAt,
        ⟨key, protocol, engine, parameterId, entropy, .waitingForMseSetAt⟩, ?_,
        mseSetAt_eq_ok hcmd, rfl, ⟨haes, hengine, trivial⟩, by simp⟩
      simp only [next, Proc.get_bind_apply, Proc.set_bind_apply, hcmd]
      rfl
    · refine .inr (.inr ⟨.err e, rfl, ?_⟩)
      simp only [next, Proc.get_bind_apply, Proc.set_bind_apply, hcmd]
      rfl
    · refine .inr (.inr ⟨.panic, rfl, ?_⟩)
      simp only [next, Proc.get_bind_apply, Proc.set_bind_apply, hcmd]
      rfl
  | readyForStep1 =>
    obtain ⟨cmd, hcmd, hclass⟩ := step1Command_isOk
    refine .inl ⟨cmd.toBytes, .nonce,
      ⟨key, protocol, engine, parameterId, entropy, .waitingForStep1⟩, ?_, hclass, rfl,
      ⟨haes, hengine, trivial⟩, by simp⟩
    simp only [next, Proc.get_bind_apply, Proc.set_bind_apply, hcmd]
    rfl
  | readyForStep2 nonce =>
    obtain ⟨drawn, hdrawn⟩ := Outcome.isOk_iff.mp hacc
    obtain ⟨hfits, pub, hpub, hlen⟩ := PaceEngine.generateMainKeyPair_eq_ok hengine hdrawn
    obtain ⟨cmd, hcmd, hclass⟩ := step2Command_isOk hpub hlen
    refine .inl ⟨cmd.toBytes, .map,
      ⟨key, protocol, drawn.1, parameterId, drawn.2, .waitingForStep2 nonce⟩, ?_, hclass, rfl,
      ⟨haes, hfits, trivial⟩, by simp⟩
    simp only at hdrawn
    simp only [next, Proc.get_bind_apply, Proc.set_bind_apply, hdrawn, Proc.lift_ok_bind_apply, hcmd]
    rfl
  | readyForStep3 =>
    obtain ⟨pub, hpub⟩ := Outcome.isOk_iff.mp hacc
    obtain ⟨cmd, hcmd, hclass⟩ :=
      step3Command_isOk hpub (PaceEngine.length_ephemeralPubKey hengine hpub)
    refine .inl ⟨cmd.toBytes, .keyAgreement,
      ⟨key, protocol, engine, parameterId, entropy, .waitingForStep3⟩, ?_, hclass, rfl,
      ⟨haes, hengine, trivial⟩, by simp⟩
    simp only at hcmd
    simp only [next, Proc.get_bind_apply, Proc.set_bind_apply, hcmd]
    rfl
  | readyForStep4 iccEphemeralPub kEnc kMac =>
    obtain ⟨cmd, hcmd, hclass⟩ := step4Command_isOk
      ⟨key, protocol, engine, parameterId, entropy, .readyForStep4 iccEphemeralPub kEnc kMac⟩
      haes hkeys.2 hacc
    refine .inl ⟨cmd.toBytes, .mutualAuth,
      ⟨key, protocol, engine, parameterId, entropy, .waitingForStep4 kEnc kMac⟩, ?_, hclass, rfl,
      ⟨haes, hengine, hkeys⟩, by simp⟩
    simp only [next, Proc.get_bind_apply, Proc.set_bind_apply, hcmd]
    rfl
  | completed slot =>
    cases slot with
    | none => exact .inr (.inr ⟨_, rfl, rfl⟩)
    | some sm => exact .inr (.inl ⟨sm, rfl, rfl⟩)
  | waitingForMseSetAt => exact .inr (.inr ⟨_, rfl, rfl⟩)
  | waitingForStep1 => exact .inr (.inr ⟨_, rfl, rfl⟩)
  | waitingForStep2 nonce => exact .inr (.inr ⟨_, rfl, rfl⟩)
  | waitingForStep3 => exact .inr (.inr ⟨_, rfl, rfl⟩)
  | waitingForStep4 kEnc kMac => exact .inr (.inr ⟨_, rfl, rfl⟩)

/-- A response that is no successful APDU is refused and changes nothing, in any state. -/
lemma feedResponse_of_unsuccessful (self : PaceSession P κ) {response : Bytes}
    (h : ∀ body, ResponseApdu.fromBytes response ≠ .ok ⟨StatusWord.success, body⟩) :
    ∃ result, result.isOk = false ∧ feedResponse response self = (result, self) := by
  rcases hparse : ResponseApdu.fromBytes response with rapdu | e | _
  · have hstatus : rapdu.status ≠ StatusWord.success := by
      intro hstatus
      exact h rapdu.data (by rw [hparse, ← hstatus])
    refine ⟨.err (.chipStatus rapdu.status), rfl, ?_⟩
    simp [feedResponse, hparse, hstatus]
  · exact ⟨.err (.invalidResponse e.text), rfl, by simp [feedResponse, hparse]⟩
  · exact ⟨.panic, rfl, by simp [feedResponse, hparse]⟩

lemma feedResponse_of_success (self : PaceSession P κ) {response : Bytes} {body : Option Bytes}
    (h : ResponseApdu.fromBytes response = .ok ⟨StatusWord.success, body⟩) :
    feedResponse response self = consumeBody body self := by
  simp only [feedResponse, h, Outcome.mapErr_ok, Proc.lift_ok_bind_apply, ne_eq,
    not_true_eq_false, if_false]

omit [AccessKey κ] in
/-- The body of a response to step 4 with the right token completes the handshake. -/
lemma handleStep4_isOk (self : PaceSession P κ) {data token kEnc kMac : Bytes}
    {pub : PublicKeyPace} (henc : kEnc.length = self.protocol.keyLength.byteSize)
    (hmacLen : kMac.length = self.protocol.keyLength.byteSize)
    (htoken : Pace.parseStep4Response data = .ok token)
    (hpub : self.engine.ephemeralPubKey = .ok pub)
    (hmac : authToken P self.protocol pub kMac = .ok token) :
    ∃ sm, self.handleStep4 kEnc kMac (some data) = .ok sm := by
  obtain ⟨cipher, hcipher⟩ := AesSmCipher.new_isOk henc hmacLen
  refine ⟨⟨cipher.toSmCipher P, ⟨0, 128, rfl, by decide, by decide⟩⟩, ?_⟩
  simp only [handleStep4, Outcome.ofOption_some, Outcome.ok_bind, htoken, Outcome.mapErr_ok, hpub,
    hmac, ne_eq, not_true_eq_false, if_false, hcipher]
  rfl

/-- What an admitted `feed_response` does: it takes the session one state on, or fails and leaves
everything as it was. -/
lemma feedResponse_cases {self : PaceSession P κ} (hwf : self.Wf) {response : Bytes}
    (hacc : self.accepts (.feed response) = true) :
    (∃ self', feedResponse response self = (.ok (), self') ∧
      self'.state.emitted = self.state.emitted ∧ self'.Wf ∧
      ∀ sm, self'.state = .completed (some sm) → self.TokenMatches response) ∨
    (∃ result, result.isOk = false ∧ feedResponse response self = (result, self)) := by
  by_cases hsuccess : ∃ body, ResponseApdu.fromBytes response = .ok ⟨StatusWord.success, body⟩
  swap
  · exact .inr (feedResponse_of_unsuccessful self fun body h => hsuccess ⟨body, h⟩)
  obtain ⟨body, hparse⟩ := hsuccess
  have hfeed := feedResponse_of_success self hparse
  have hbody : self.acceptsBody body = true := by
    simpa [accepts, hparse] using hacc
  obtain ⟨haes, hengine, hkeys⟩ := hwf
  obtain ⟨key, protocol, engine, parameterId, entropy, state⟩ := self
  cases state with
  | waitingForMseSetAt =>
    exact .inl ⟨⟨key, protocol, engine, parameterId, entropy, .readyForStep1⟩, hfeed, rfl,
      ⟨haes, hengine, trivial⟩, by simp⟩
  | waitingForStep1 =>
    obtain ⟨data, rfl, hbody⟩ := (Option.any_eq_true _ _).mp hbody
    obtain ⟨encryptedNonce, hnonce, hdecrypt⟩ := Outcome.isOkAnd_iff.mp hbody
    obtain ⟨nonce, hdecrypt⟩ := Outcome.isOk_iff.mp hdecrypt
    refine .inl ⟨⟨key, protocol, engine, parameterId, entropy, .readyForStep2 nonce⟩, ?_, rfl,
      ⟨haes, hengine, trivial⟩, by simp⟩
    rw [hfeed]
    simp only at hdecrypt
    simp only [consumeBody, Proc.get_bind_apply, Proc.set_bind_apply, handleStep1,
      Outcome.ofOption_some, Outcome.ok_bind, hnonce, Outcome.mapErr_ok, hdecrypt,
      Proc.lift_ok_bind_apply, Proc.set_apply]
  | waitingForStep2 nonce =>
    obtain ⟨data, rfl, hbody⟩ := (Option.any_eq_true _ _).mp hbody
    obtain ⟨pub, hpub, hmap⟩ := Outcome.isOkAnd_iff.mp hbody
    obtain ⟨drawn, hmap⟩ := Outcome.isOk_iff.mp hmap
    refine .inl ⟨⟨key, protocol, drawn.1, parameterId, drawn.2, .readyForStep3⟩, ?_, rfl,
      ⟨haes, PaceEngine.fits_mapAndGenerateEphemeral hengine hmap, trivial⟩, by simp⟩
    rw [hfeed]
    simp only at hpub hmap
    simp only [consumeBody, Proc.get_bind_apply, Proc.set_bind_apply, handleStep2, chipPublicKey,
      Outcome.ofOption_some, Outcome.ok_bind, hpub, Outcome.mapErr_ok, hmap,
      Proc.lift_ok_bind_apply, Proc.set_apply]
  | waitingForStep3 =>
    obtain ⟨data, rfl, hbody⟩ := (Option.any_eq_true _ _).mp hbody
    obtain ⟨pub, hpub, hseed⟩ := Outcome.isOkAnd_iff.mp hbody
    obtain ⟨seed, hseed⟩ := Outcome.isOk_iff.mp hseed
    refine .inl ⟨⟨key, protocol, engine, parameterId, entropy, .readyForStep4 pub
      (Pace.calculateEncKey P protocol seed) (Pace.calculateMacKey P protocol seed)⟩, ?_, rfl,
      ⟨haes, hengine, Pace.length_calculateEncKey P haes seed,
        Pace.length_calculateMacKey P haes seed⟩, by simp⟩
    rw [hfeed]
    simp only at hpub hseed
    simp only [consumeBody, Proc.get_bind_apply, Proc.set_bind_apply, handleStep3, chipPublicKey,
      Outcome.ofOption_some, Outcome.ok_bind, hpub, Outcome.mapErr_ok, hseed, Outcome.pure_eq,
      Proc.lift_ok_bind_apply, Proc.set_apply]
  | waitingForStep4 kEnc kMac =>
    obtain ⟨data, rfl, hbody⟩ := (Option.any_eq_true _ _).mp hbody
    obtain ⟨token, htoken, hbody⟩ := Outcome.isOkAnd_iff.mp hbody
    obtain ⟨pub, hpub, hmac⟩ := Outcome.isOkAnd_iff.mp hbody
    have hmac := of_decide_eq_true hmac
    obtain ⟨sm, hsm⟩ := handleStep4_isOk
      ⟨key, protocol, engine, parameterId, entropy, .waitingForStep4 kEnc kMac⟩
      hkeys.1 hkeys.2 htoken hpub hmac
    refine .inl ⟨⟨key, protocol, engine, parameterId, entropy, .completed (some sm)⟩, ?_, rfl,
      ⟨haes, hengine, trivial⟩, fun _ _ => ⟨data, token, pub, kEnc, kMac, hparse, htoken, rfl, hpub,
        hmac⟩⟩
    rw [hfeed]
    simp only [consumeBody, Proc.get_bind_apply, Proc.set_bind_apply, hsm, Proc.lift_ok_bind_apply,
      Proc.set_apply]
  | start => exact .inr ⟨_, rfl, hfeed⟩
  | readyForStep1 => exact .inr ⟨_, rfl, hfeed⟩
  | readyForStep2 nonce => exact .inr ⟨_, rfl, hfeed⟩
  | readyForStep3 => exact .inr ⟨_, rfl, hfeed⟩
  | readyForStep4 pub kEnc kMac => exact .inr ⟨_, rfl, hfeed⟩
  | completed slot => exact .inr ⟨_, rfl, hfeed⟩

/-- Done is only ever handed over from the completed state. -/
lemma state_of_done {self self' : PaceSession P κ} {sm : MrtdSM}
    (h : next self = (.ok (.done sm), self')) : self.state = .completed (some sm) := by
  cases requested_of_next h with
  | handsOver hstate => exact hstate
  | failed _ _ hresult => cases hresult
  | drewAndFailed _ _ hresult => cases hresult

/-! ## The contract -/

/-- What a session has been asked and has answered. -/
abbrev History := List (Dialogue.Call Bytes × Dialogue.Reply PaceSessionError PaceAction)

/-- All that was emitted. -/
def emitted (past : History) : List (Option PaceStep) := Dialogue.emitted PaceStep.ofAction past

/-- Somewhere in the calls served by `init` the chip's token was accepted: it was the one that the
terminal computed. -/
def Verified (init : PaceSession P κ) (calls : List (Dialogue.Call Bytes)) : Prop :=
  ∃ before response after, calls = before ++ .feed response :: after ∧
    (Machine.final step init before).TokenMatches response

lemma Verified.concat {init : PaceSession P κ} {calls : List (Dialogue.Call Bytes)}
    (h : Verified init calls) (call : Dialogue.Call Bytes) : Verified init (calls ++ [call]) := by
  obtain ⟨before, response, after, rfl, hmatch⟩ := h
  exact ⟨before, response, after ++ [call], by simp, hmatch⟩

/-- The session is the one that `init` has become, has emitted what its state says, and has verified
the chip's token if it is completed. -/
structure Contract (init : PaceSession P κ) (past : History) (session : PaceSession P κ) : Prop where
  session_eq : session = Machine.final step init (past.map Prod.fst)
  wf : session.Wf
  emitted_eq : emitted past = session.state.emitted.map some
  verified : ∀ sm, session.state = .completed (some sm) → Verified init (past.map Prod.fst)

/-- A call that emits nothing and changes nothing keeps the contract. -/
lemma Contract.concat_unchanged {init session : PaceSession P κ} {past : History}
    (h : Contract init past session) {call : Dialogue.Call Bytes}
    {reply : Dialogue.Reply PaceSessionError PaceAction} (hstep : step call session = (reply, session))
    (hfailed : reply.isOk = false) : Contract init (past ++ [(call, reply)]) session := by
  have hcalls : (past ++ [(call, reply)]).map Prod.fst = past.map Prod.fst ++ [call] := by simp
  refine ⟨?_, h.wf, ?_, ?_⟩
  · rw [hcalls, Machine.final_concat, ← h.session_eq, hstep]
  · rw [emitted, Dialogue.emitted_concat_silent (Dialogue.Reply.emits_of_failed hfailed)]
    exact h.emitted_eq
  · intro sm hsm
    rw [hcalls]
    exact (h.verified sm hsm).concat call

/-- Every admitted call keeps the contract. -/
lemma contract_step {init : PaceSession P κ} (past : History) (call : Dialogue.Call Bytes)
    (session : PaceSession P κ) (h : Contract init past session)
    (hacc : session.accepts call = true) :
    Contract init (past ++ [(call, (step call session).1)]) (step call session).2 := by
  have hcalls : ∀ reply : Dialogue.Reply PaceSessionError PaceAction,
      (past ++ [(call, reply)]).map Prod.fst = past.map Prod.fst ++ [call] := fun reply => by simp
  have hsession : (step call session).2 =
      Machine.final step init ((past ++ [(call, (step call session).1)]).map Prod.fst) := by
    rw [hcalls, Machine.final_concat, ← h.session_eq]
  cases call with
  | next =>
    rcases next_cases h.wf hacc with ⟨apdu, kind, self', hnext, hclass, hemitted, hwf, hopen⟩
      | ⟨sm, hstate, hnext⟩ | ⟨result, hfailed, hnext⟩
    · rw [step_next, hnext] at hsession ⊢
      refine ⟨hsession, hwf, ?_, fun sm hsm => absurd hsm (hopen sm)⟩
      rw [emitted, Dialogue.emitted_concat, ← emitted, h.emitted_eq, hemitted,
        Dialogue.Reply.emits_action_ok, PaceStep.ofAction, hclass, List.map_append]
      rfl
    · rw [step_next, hnext] at hsession ⊢
      refine ⟨hsession, ⟨h.wf.aes, h.wf.engine, trivial⟩, ?_, by simp⟩
      rw [emitted, Dialogue.emitted_concat, ← emitted, h.emitted_eq, hstate]
      rfl
    · rw [step_next, hnext]
      exact h.concat_unchanged (by rw [step_next, hnext]) hfailed
  | feed response =>
    rcases feedResponse_cases h.wf hacc with ⟨self', hfeed, hemitted, hwf, hmatch⟩
      | ⟨result, hfailed, hfeed⟩
    · rw [step_feed, hfeed] at hsession ⊢
      refine ⟨hsession, hwf, ?_, ?_⟩
      · rw [emitted, Dialogue.emitted_concat_silent (Dialogue.Reply.emits_fed _), ← emitted,
          h.emitted_eq, hemitted]
      · intro sm hsm
        rw [hcalls]
        refine ⟨past.map Prod.fst, response, [], rfl, ?_⟩
        rw [← h.session_eq]
        exact hmatch sm hsm
    · rw [step_feed, hfeed]
      exact h.concat_unchanged (by rw [step_feed, hfeed]) hfailed

lemma fits_getDomainParameter {id : Nat} {entropy : Entropy} {engine : DHPace × Entropy}
    (h : DHPace.getDomainParameter id entropy = .ok engine) : engine.1.Fits := by
  obtain ⟨spec, hspec, e, he, hengine⟩ := DHPace.getDomainParameter_eq_ok h
  have hp : 0 < spec.p ∧ spec.p < 256 ^ 256 := by
    rcases hspec with rfl | rfl | rfl <;> decide
  rw [hengine]
  refine ⟨hp.1, hp.2, ?_, by simp⟩
  intro e' he'
  rw [← Option.some.inj he', he]

omit [AccessKey κ] in
/-- A new session is at the start, with an AES cipher and an engine in its group. -/
lemma new_eq_ok {key : κ} {protocol : OiePaceProtocol} {parameterId : Nat} {entropy : Entropy}
    {session : PaceSession P κ} (h : new P key protocol parameterId entropy = .ok session) :
    session.Wf ∧ session.state = .start ∧ session.protocol = protocol ∧ session.key = key := by
  unfold new at h
  split at h
  · obtain ⟨haes, engine, rfl⟩ := newEcdh_eq_ok h
    exact ⟨⟨haes, trivial, trivial⟩, rfl, rfl, rfl⟩
  · obtain ⟨haes, engine, hengine, rfl⟩ := newDh_eq_ok h
    exact ⟨⟨haes, fits_getDomainParameter hengine, trivial⟩, rfl, rfl, rfl⟩

/-- **The contract of a PACE session.**  In every run of a new session whose calls are all admitted
(`accepts`): the session has emitted a prefix of the handshake, each step once and in order; it
emits Done only after it has accepted the chip's token as the one it computed itself; and an
admitted call that fails leaves it exactly as it was, so that nothing restarts the handshake. -/
theorem paceSession_contract {key : κ} {protocol : OiePaceProtocol} {parameterId : Nat}
    {entropy : Entropy} {session : PaceSession P κ}
    (hnew : new P key protocol parameterId entropy = .ok session)
    (calls : List (Dialogue.Call Bytes))
    (hacc : Machine.Every step (fun session call => session.accepts call = true) session calls) :
    emitted (Machine.trace step session calls) <+: PaceStep.all.map some ∧
    (∀ sm, (step .next (Machine.final step session calls)).1 = .action (.ok (.done sm)) →
      Verified session calls) ∧
    ∀ call, (Machine.final step session calls).accepts call = true →
      (step call (Machine.final step session calls)).1.isOk = false →
      (step call (Machine.final step session calls)).2 = Machine.final step session calls := by
  obtain ⟨hwf, hstart, -⟩ := new_eq_ok hnew
  have hinit : Contract session [] session :=
    ⟨rfl, hwf, by rw [hstart]; rfl, fun sm hsm => by simp [hstart] at hsm⟩
  have hrun := @Machine.history_invariant_of_every _ _ _ step (Contract session) _
    (fun past call self h hgood => contract_step past call self h hgood) _ _ hinit calls hacc
  rw [List.nil_append] at hrun
  have hmap : (Machine.trace step session calls).map Prod.fst = calls := by
    clear hacc hrun hinit hwf hstart hnew
    induction calls generalizing session with
    | nil => rfl
    | cons call calls ih => rw [Machine.trace_cons, List.map_cons, ih]
  refine ⟨?_, ?_, ?_⟩
  · rw [hrun.emitted_eq]
    exact (PaceState.emitted_prefix _).map some
  · intro sm hdone
    have hnext : next (Machine.final step session calls) =
        (.ok (.done sm), (next (Machine.final step session calls)).2) := by
      rw [step_next, Dialogue.Reply.action.injEq] at hdone
      rw [← hdone]
    have hverified := hrun.verified sm (state_of_done hnext)
    rwa [hmap] at hverified
  · intro call hcall hfailed
    cases call with
    | next =>
      rcases next_cases hrun.wf hcall with ⟨apdu, kind, self', hnext, -⟩ | ⟨sm, -, hnext⟩
        | ⟨result, -, hnext⟩
      · rw [step_next, hnext] at hfailed
        simp [Dialogue.Reply.isOk] at hfailed
      · rw [step_next, hnext] at hfailed
        simp [Dialogue.Reply.isOk] at hfailed
      · rw [step_next, hnext]
    | feed response =>
      rcases feedResponse_cases hrun.wf hcall with ⟨self', hfeed, -⟩ | ⟨result, -, hfeed⟩
      · rw [step_feed, hfeed] at hfailed
        simp [Dialogue.Reply.isOk] at hfailed
      · rw [step_feed, hfeed]

/-! ### A handshake, and one that starts over

A chip that sends back what it receives takes the session through every step.  The private keys are
small, and SHA-1, AES and AES-CMAC are recorded for the values that occur. -/

/-- id-PACE-DH-GM-AES-CBC-CMAC-128. -/
def echoProtocol : OiePaceProtocol where
  oie := ⟨"0.4.0.127.0.7.2.2.4.1.2", "ID-PACE-DH-GM-AES-CBC-CMAC-128",
    [0, 4, 0, 127, 0, 7, 2, 2, 4, 1, 2]⟩
  cipherAlgorithm := .aes
  keyLength := .s128
  tokenAgreementAlgorithm := .dh
  mappingType := .gm

/-- The card access number 123456. -/
def echoKey : CanKey := ⟨[0x31, 0x32, 0x33, 0x34, 0x35, 0x36], rfl⟩

/-- The private keys that the terminal draws: one with the engine, one for the mapping, and the
ephemeral one. -/
def echoEntropy : Entropy := toBE 20 1 ++ toBE 20 2 ++ toBE 20 3

/-- The nonce, decrypted. -/
def echoNonce : Nat := 0x3F00C4D39D153F2B2A214A078D899B22

/-- What the nonce and the chip's mapping key, here the generator itself, map the generator to. -/
def echoGenerator : Nat :=
  ModPow.modPow rfc5114_1024_160.g echoNonce rfc5114_1024_160.p *
    ModPow.modPow rfc5114_1024_160.g 2 rfc5114_1024_160.p % rfc5114_1024_160.p

/-- The terminal's ephemeral public key. -/
def echoPublic : Nat := ModPow.modPow echoGenerator 3 rfc5114_1024_160.p

/-- What the terminal agrees on with its own ephemeral public key. -/
def echoSeed : Bytes := bigUintToBytes (ModPow.modPow echoPublic 3 rfc5114_1024_160.p)

/-- SHA-1, AES and AES-CMAC as they answer in this handshake. -/
def echoRecording : Primitives.Recording where
  sha1 := [
    Primitives.Recording.digest 10 0x31323334353600000003
      0x591468CDA83D65219CCCB8560233600FFB3AC260,
    (echoSeed ++ toBE 4 1, ⟨toBE 20 0x3447B7521F149FA755A37A730EC5D7C7749DED04, length_toBE _ _⟩),
    (echoSeed ++ toBE 4 2, ⟨toBE 20 0x26070058887D481C0A1C89E6CE02509454A60201, length_toBE _ _⟩)]
  des := []
  tdes := []
  aes := [Primitives.Recording.blocks 16 16 0x591468CDA83D65219CCCB8560233600F
    [(echoNonce, 0x84EBAB7F2DE981C6FA6922A691AE0911)]]
  cmac := [((toBE 16 0x26070058887D481C0A1C89E6CE025094,
      toBE 19 0x7F49818F060A04007F00070202040102848180 ++ toBE 128 echoPublic),
    ⟨toBE 16 0x391F83DF57FB729B1441DD3213501CFF, length_toBE _ _⟩)]

/-- A response of the chip: a data object inside dynamic authentication data. -/
def echoResponse (tag : Nat) (value : Bytes) : Bytes :=
  match (Tlv.encode tag value >>= Tlv.encode 0x7C : Outcome PaceSessionError Bytes) with
  | .ok body => body ++ StatusWord.success.toBytes
  | _ => []

/-- The handshake up to Done. -/
def echoCalls : List (Dialogue.Call Bytes) := [
  .next, .feed StatusWord.success.toBytes,
  .next, .feed (echoResponse 0x80 (toBE 16 0x84EBAB7F2DE981C6FA6922A691AE0911)),
  .next, .feed (echoResponse 0x82 (toBE 128 rfc5114_1024_160.g)),
  .next, .feed (echoResponse 0x84 (toBE 128 echoPublic)),
  .next, .feed (echoResponse 0x86 (toBE 8 0x391F83DF57FB729B))]

/-- A new session, in the first group. -/
def echoSession : Outcome PaceSessionError (PaceSession (Primitives.replay echoRecording) CanKey) :=
  new (Primitives.replay echoRecording) echoKey echoProtocol 0 echoEntropy

lemma echoSession_run : echoSession.isOkAnd fun session =>
    decide (Machine.Every step (fun session call => session.accepts call = true) session
      echoCalls) &&
    decide ((step .next (Machine.final step session echoCalls)).1.emits PaceStep.ofAction =
      some (some .done)) := by
  decide +kernel

/-- The handshake is admitted from end to end and is done once the token is accepted. -/
theorem paceSession_contract_echo : ∃ session, echoSession = .ok session ∧
    Verified session echoCalls := by
  obtain ⟨session, hnew, hrun⟩ := Outcome.isOkAnd_iff.mp echoSession_run
  obtain ⟨hacc, hdone⟩ := Bool.and_eq_true_iff.mp hrun
  obtain ⟨sm, hdone⟩ := PaceStep.eq_done_of_emits (of_decide_eq_true hdone)
  exact ⟨session, hnew,
    (paceSession_contract hnew echoCalls (of_decide_eq_true hacc)).2.1 sm hdone⟩

/-- A response without a body where the nonce is expected: the call fails, and the next command is
MSE:Set AT once more. -/
theorem emits_mseSetAt_twice : ∃ session, echoSession = .ok session ∧
    emitted (Machine.trace step session [.next, .feed StatusWord.success.toBytes, .next,
      .feed StatusWord.success.toBytes, .next]) = [some .mseSetAt, some .nonce, some .mseSetAt] ∧
    ¬ [some PaceStep.mseSetAt, some .nonce, some .mseSetAt] <+: PaceStep.all.map some := by
  have hrun : echoSession.isOkAnd fun session =>
      decide (emitted (Machine.trace step session [.next, .feed StatusWord.success.toBytes, .next,
        .feed StatusWord.success.toBytes, .next]) =
        [some .mseSetAt, some .nonce, some .mseSetAt]) := by
    decide +kernel
  obtain ⟨session, hnew, hemitted⟩ := Outcome.isOkAnd_iff.mp hrun
  exact ⟨session, hnew, of_decide_eq_true hemitted, by decide⟩

end PaceSession

end Dmrtd
