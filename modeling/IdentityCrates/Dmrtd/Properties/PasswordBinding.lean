import IdentityCrates.Dmrtd.Proto.DhOrders
import IdentityCrates.Dmrtd.Properties.PaceCourse

/-!
# What binds a PACE session to the password

The password enters a PACE handshake in one place: the chip sends a nonce encrypted under `K_π`, and
whoever decrypts it to something else maps the generator to something else.  Nothing in the code asks
for the encrypted nonce to be one block long.  The parser of the response takes a value of any
length, and the decryption any number of whole blocks, none included.  A chip that sends the empty
value fixes the nonce to the empty one under every password, and the mapped generator with it
(`PaceSession.empty_nonce_fixes_generator`).

For responses of one block the password does bind.  The nonce is the decryption of the block; two
passwords that decrypt it differently give different nonces, and from the same key pair and the same
response of the chip different generators (`PaceSession.passwordBound_iff`).  Over a curve this rests
on its order being above 128 bits, and over the groups of `dh_pace.rs` on the orders of the
subgroups, which are primes above 128 bits (`PrimeSubgroup`).
-/

namespace Dmrtd

open Rust Octets

/-! ## Different nonces map to different generators -/

/-- What a nonce maps the generator to: a point of a curve, or a remainder. -/
inductive Generator (P : Primitives) where
  | point (c : NamedCurve) (g : (P.curve c).Point)
  | residue (g : Nat)
  deriving DecidableEq

/-- One block is a number below `2 ^ 128`, and determined by it. -/
lemma ofBE_lt_of_block {block : Bytes} (h : block.length = 16) : ofBE block < 2 ^ 128 := by
  have hlt := ofBE_lt block
  rwa [h, show 256 ^ 16 = 2 ^ 128 by norm_num] at hlt

namespace EcdhEngine

variable {P : Primitives} {c : NamedCurve}

/-- The scalars of different blocks give different multiples of the generator. -/
lemma scalarFromBytes_nsmul_inj {a b : Bytes} (ha : a.length = 16) (hb : b.length = 16)
    (h : scalarFromBytes P c a • (P.curve c).generator =
      scalarFromBytes P c b • (P.curve c).generator) : a = b := by
  rw [(P.curve c).nsmul_eq_nsmul_iff (P.curve c).generator_ne_zero, scalarFromBytes,
    scalarFromBytes, Nat.mod_mod, Nat.mod_mod,
    Nat.mod_eq_of_lt ((ofBE_lt_of_block ha).trans (P.curve_large c)),
    Nat.mod_eq_of_lt ((ofBE_lt_of_block hb).trans (P.curve_large c))] at h
  exact ofBE_inj (ha.trans hb.symm) h

/-- What the mapping computes from the static key, the chip's key and the nonce. -/
lemma mapAndGenerateEphemeral_eq_ok {self : EcdhEngine P c} {pub : PublicKeyPace} {nonce : Bytes}
    {entropy : Entropy} {drawn : EcdhEngine P c × Entropy}
    (h : self.mapAndGenerateEphemeral pub nonce entropy = .ok drawn) :
    ∃ other shared, transformPublic P c pub = .ok other ∧
      self.computeSharedPoint other = .ok shared ∧
      drawn.1.ephemeralGenerator =
        some (scalarFromBytes P c nonce • (P.curve c).generator + shared) := by
  obtain ⟨other, hother, h⟩ := Outcome.bind_eq_ok.mp h
  obtain ⟨shared, hshared, h⟩ := Outcome.bind_eq_ok.mp h
  obtain ⟨sk, -, h⟩ := Outcome.bind_eq_ok.mp h
  rw [Outcome.pure_eq, Outcome.ok.injEq] at h
  rw [← h]
  exact ⟨other, shared, hother, hshared, rfl⟩

end EcdhEngine

namespace DHpkcs3Engine

/-- Against one key of the chip, different small nonces map to different generators. -/
lemma computeGenerator_inj {self : DHpkcs3Engine} {q : Nat}
    (hgroup : PrimeSubgroup self.parameterSpec q) {y a b g : Nat} (ha : a < 2 ^ 128)
    (hb : b < 2 ^ 128) (hga : self.computeGenerator y a = .ok g)
    (hgb : self.computeGenerator y b = .ok g) : a = b := by
  obtain ⟨s, hs, hga, -⟩ := computeGenerator_eq_ok.mp hga
  obtain ⟨s', hs', hgb, -⟩ := computeGenerator_eq_ok.mp hgb
  obtain rfl : s = s' := Outcome.ok.inj (hs.symm.trans hs')
  obtain ⟨hvalid, hsecret⟩ := computeSecretKey_eq_ok.mp hs
  have hy := (validatePeerPublicKey_eq_ok.mp hvalid).2.2.2 q hgroup.order
  rw [ModPow.modPow_eq] at hy hsecret hga hgb
  -- the shared secret is a power of the chip's key, and like it invertible
  have hunit := ModPow.pow_mod_pow_eq_one hgroup.one_lt hy self.privateKey
  rw [← hsecret] at hunit
  have hcancel := ModPow.mul_mod_right_cancel hgroup.one_lt hgroup.prime.pos hunit
    (hga.symm.trans hgb)
  rw [Nat.mod_mod, Nat.mod_mod] at hcancel
  exact hgroup.pow_mod_inj ha hb hcancel

end DHpkcs3Engine

namespace PaceEngine

variable {P : Primitives}

/-- The generator of the ephemeral key pair. -/
def mapped : PaceEngine P → Option (Generator P)
  | .ecdh e => e.engine.ephemeralGenerator.map (Generator.point e.curve)
  | .dh e => e.ephemeral.map fun pair => Generator.residue pair.parameterSpec.g

/-- A DH engine is in one of the groups, and so is its static key pair. -/
def Grouped : PaceEngine P → Prop
  | .ecdh _ => True
  | .dh e => (∃ q, PrimeSubgroup e.domainSpec q) ∧
    ∀ pair, e.engine = some pair → pair.parameterSpec = e.domainSpec

lemma grouped_static {self : PaceEngine P} : self.static.Grouped ↔ self.Grouped := by
  cases self <;> exact Iff.rfl

/-- What the mapping of a DH engine computes. -/
lemma mapped_dh {e : DHPace} {pub : PublicKeyPace} {nonce : Bytes} {entropy : Entropy}
    {drawn : PaceEngine P × Entropy}
    (h : (PaceEngine.dh e).mapAndGenerateEphemeral pub nonce entropy = .ok drawn) :
    ∃ pair g, e.engine = some pair ∧
      pair.computeGenerator (ofBE pub.toRelevantBytes) (ofBE nonce) = .ok g ∧
      drawn.1.mapped = some (.residue g) := by
  obtain ⟨gPrime, hgPrime, h⟩ := Outcome.bind_eq_ok.mp h
  obtain ⟨next, hnext, hdrawn⟩ := Outcome.bind_eq_ok.mp h
  obtain ⟨pair, hpair, hmap⟩ := Outcome.bind_eq_ok.mp (Outcome.mapErr_eq_ok.mp hgPrime)
  obtain ⟨g, hg, hbytes⟩ := Outcome.bind_eq_ok.mp hmap
  obtain ⟨ephemeral, hspec, hengine⟩ :=
    DHPace.generateEphemeral_eq_ok (Outcome.mapErr_eq_ok.mp hnext)
  rw [Outcome.pure_eq, Outcome.ok.injEq] at hdrawn hbytes
  refine ⟨pair, g, Outcome.ofOption_eq_ok.mp hpair, Outcome.mapErr_eq_ok.mp hg, ?_⟩
  rw [← hdrawn, hengine, mapped, Option.map_some, hspec, ← hbytes, ofBE_bigUintToBytes]

/-- An engine that draws its static pair stays in its group. -/
lemma grouped_generateMainKeyPair {self : PaceEngine P} (h : self.Grouped) {entropy : Entropy}
    {drawn : PaceEngine P × Entropy} (hdrawn : self.generateMainKeyPair entropy = .ok drawn) :
    drawn.1.Grouped := by
  cases self with
  | ecdh e =>
    obtain ⟨pair, -, hnext⟩ := Outcome.bind_eq_ok.mp hdrawn
    rw [Outcome.pure_eq, Outcome.ok.injEq] at hnext
    rw [← hnext]
    trivial
  | dh e =>
    obtain ⟨pair, hpair, hnext⟩ := Outcome.bind_eq_ok.mp hdrawn
    obtain ⟨engine, hspec, hengine⟩ := DHPace.generateKeyPair_eq_ok (Outcome.mapErr_eq_ok.mp hpair)
    rw [Outcome.pure_eq, Outcome.ok.injEq] at hnext
    rw [← hnext, hengine]
    refine ⟨h.1, ?_⟩
    intro engine' hengine'
    rw [← Option.some.inj hengine']
    exact hspec

/-- From one static key pair and one key of the chip, different blocks map to different
generators. -/
lemma mapped_ne {self self' : PaceEngine P} (hstatic : self.static = self'.static)
    (hgroup : self.Grouped) {pub : PublicKeyPace} {nonce nonce' : Bytes}
    (hlen : nonce.length = 16) (hlen' : nonce'.length = 16) (hne : nonce ≠ nonce')
    {entropy entropy' : Entropy} {drawn drawn' : PaceEngine P × Entropy}
    (h : self.mapAndGenerateEphemeral pub nonce entropy = .ok drawn)
    (h' : self'.mapAndGenerateEphemeral pub nonce' entropy' = .ok drawn') :
    drawn.1.mapped ≠ drawn'.1.mapped := by
  cases self with
  | ecdh e =>
    cases self' with
    | dh e' => simp [static] at hstatic
    | ecdh e' =>
      obtain ⟨c, engine⟩ := e
      obtain ⟨c', engine'⟩ := e'
      simp only [static, PaceEngine.ecdh.injEq, ECDHPace.mk.injEq] at hstatic
      obtain ⟨rfl, hstatic⟩ := hstatic
      rw [heq_eq_eq, EcdhEngine.mk.injEq] at hstatic
      obtain ⟨pair, hpair, hdrawn⟩ := Outcome.bind_eq_ok.mp h
      obtain ⟨pair', hpair', hdrawn'⟩ := Outcome.bind_eq_ok.mp h'
      obtain ⟨other, shared, hother, hshared, hg⟩ :=
        EcdhEngine.mapAndGenerateEphemeral_eq_ok (Outcome.mapErr_eq_ok.mp hpair)
      obtain ⟨other', shared', hother', hshared', hg'⟩ :=
        EcdhEngine.mapAndGenerateEphemeral_eq_ok (Outcome.mapErr_eq_ok.mp hpair')
      obtain rfl : other = other' := Outcome.ok.inj (hother.symm.trans hother')
      rw [EcdhEngine.computeSharedPoint, ← hstatic.1, ← EcdhEngine.computeSharedPoint,
        hshared, Outcome.ok.injEq] at hshared'
      rw [Outcome.pure_eq, Outcome.ok.injEq] at hdrawn hdrawn'
      rw [← hdrawn, ← hdrawn', mapped, mapped, hg, hg', ← hshared']
      simp only [Option.map_some, ne_eq, Option.some.injEq, Generator.point.injEq, heq_eq_eq,
        true_and, add_left_inj]
      exact fun heq => hne (EcdhEngine.scalarFromBytes_nsmul_inj hlen hlen' heq)
  | dh e =>
    cases self' with
    | ecdh e' => simp [static] at hstatic
    | dh e' =>
      simp only [static, PaceEngine.dh.injEq, DHPace.mk.injEq, and_true] at hstatic
      obtain ⟨pair, g, hpair, hg, hmapped⟩ := mapped_dh h
      obtain ⟨pair', g', hpair', hg', hmapped'⟩ := mapped_dh h'
      rw [hstatic.2, hpair', Option.some.injEq] at hpair
      rw [hpair] at hg'
      rw [hmapped, hmapped']
      intro heq
      obtain rfl : g = g' := Generator.residue.inj (Option.some.inj heq)
      obtain ⟨⟨q, hq⟩, hspec⟩ := hgroup
      rw [← hspec pair (by rw [hstatic.2, hpair', hpair])] at hq
      exact hne (ofBE_inj (hlen.trans hlen'.symm) (DHpkcs3Engine.computeGenerator_inj hq
        (ofBE_lt_of_block hlen) (ofBE_lt_of_block hlen') hg hg'))

end PaceEngine

/-! ## What a session receives and holds -/

/-- The nonce that the mapping will use. -/
def PaceState.nonce : PaceState → Option Bytes
  | .readyForStep2 nonce | .waitingForStep2 nonce => some nonce
  | _ => none

namespace PaceSession

variable {P : Primitives} {κ κ' : Type} [AccessKey κ] [AccessKey κ']

/-- The password key, if the access key has one of the length that the cipher needs. -/
def kPi (self : PaceSession P κ) : Option Bytes :=
  match AccessKey.kpi P self.key self.protocol.cipherAlgorithm self.protocol.keyLength with
  | .ok key => if key.length = self.protocol.keyLength.byteSize then some key else none
  | _ => none

/-- The encrypted nonce in a successful response to a session that waits for one. -/
def receivedNonce (self : PaceSession P κ) : Dialogue.Call Bytes → Option Bytes
  | .next => none
  | .feed response =>
    match self.state with
    | .waitingForStep1 => (ResponseApdu.fromBytes response).toOption.bind fun rapdu =>
      if rapdu.status = StatusWord.success then
        rapdu.data.bind fun data => (Pace.parseStep1Response data).toOption
      else none
    | _ => none

/-- An encrypted nonce that is received is one block long, unless it cannot be decrypted at all: for
want of a password key, or because it is not a whole number of blocks. -/
def oneBlock (self : PaceSession P κ) (call : Dialogue.Call Bytes) : Bool :=
  (self.receivedNonce call).all fun enc =>
    self.kPi.isNone || enc.length % 16 != 0 || enc.length == 16

/-- What a session decrypts, and when it can. -/
lemma decryptNonce_eq_ok {self : PaceSession P κ} (haes : self.protocol.cipherAlgorithm = .aes)
    {enc nonce : Bytes} :
    Pace.decryptNonce P self.protocol enc self.key = .ok nonce ↔
      ∃ key, self.kPi = some key ∧ enc.length % 16 = 0 ∧
        nonce = (P.aes key).cbcDecrypt (List.replicate 16 0) enc := by
  rw [Pace.decryptNonce, kPi, haes]
  rcases AccessKey.kpi P self.key .aes self.protocol.keyLength with key | e | _
  · rw [Outcome.mapErr_ok, Outcome.ok_bind]
    simp only
    rw [Outcome.mapErr_eq_ok, AesCipher.decrypt_cbc_eq_ok]
    by_cases hlen : key.length = self.protocol.keyLength.byteSize
    · simp [AesCipher.keySize, hlen]
    · simp [AesCipher.keySize, hlen]
  · simp
  · simp

omit [AccessKey κ] in
lemma receivedNonce_feed {self : PaceSession P κ} {response enc : Bytes}
    (h : self.receivedNonce (.feed response) = some enc) :
    self.state = .waitingForStep1 ∧ ∃ data,
      ResponseApdu.fromBytes response = .ok ⟨StatusWord.success, some data⟩ ∧
      Pace.parseStep1Response data = .ok enc := by
  rw [receivedNonce] at h
  split at h
  · rename_i hstate
    refine ⟨hstate, ?_⟩
    obtain ⟨⟨status, body⟩, hrapdu, h⟩ := Option.bind_eq_some_iff.mp h
    split at h
    · rename_i hstatus
      obtain ⟨data, hdata, h⟩ := Option.bind_eq_some_iff.mp h
      obtain rfl : status = StatusWord.success := hstatus
      obtain rfl : body = some data := hdata
      exact ⟨data, Outcome.toOption_eq_some.mp hrapdu, Outcome.toOption_eq_some.mp h⟩
    · simp at h
  · simp at h

/-- A nonce that is received and decrypts is the one the mapping will use. -/
lemma state_of_received {self : PaceSession P κ} {call : Dialogue.Call Bytes} {enc nonce : Bytes}
    (h : self.receivedNonce call = some enc)
    (hdec : Pace.decryptNonce P self.protocol enc self.key = .ok nonce) :
    (step call self).2.state = .readyForStep2 nonce := by
  cases call with
  | next => simp [receivedNonce] at h
  | feed response =>
    obtain ⟨hstate, data, hparse, henc⟩ := receivedNonce_feed h
    obtain ⟨key, protocol, engine, parameterId, entropy, state⟩ := self
    obtain rfl : state = .waitingForStep1 := hstate
    have hhandle : handleStep1 (P := P)
        ⟨key, protocol, engine, parameterId, entropy, .waitingForStep1⟩ (some data) = .ok nonce := by
      rw [handleStep1, Outcome.ofOption_some, Outcome.ok_bind, henc, Outcome.mapErr_ok,
        Outcome.ok_bind]
      exact Outcome.mapErr_eq_ok.mpr hdec
    rw [step_feed, feedResponse_of_success _ hparse]
    simp only [consumeBody, Proc.get_bind_apply, Proc.set_bind_apply, hhandle]
    rfl

/-- What a call does to the session: the key and the protocol stay, and the nonce that is held
afterwards was held before or has just been received. -/
structure Effect (session : PaceSession P κ) (call : Dialogue.Call Bytes)
    (next : PaceSession P κ) : Prop where
  key : next.key = session.key
  protocol : next.protocol = session.protocol
  nonce : ∀ nonce, next.state.nonce = some nonce →
    (session.state.nonce = some nonce ∧ session.receivedNonce call = none) ∨
      ∃ enc, session.receivedNonce call = some enc ∧
        Pace.decryptNonce P session.protocol enc session.key = .ok nonce

lemma effect_next (self : PaceSession P κ) : Effect self .next (next self).2 := by
  -- a state without a nonce asks for nothing
  have hsilent : ∀ (engine : PaceEngine P) (entropy : Entropy) (state : PaceState),
      state.nonce = none → Effect self .next { self with engine, entropy, state } := by
    intro engine entropy state hnone
    exact ⟨rfl, rfl, fun nonce h => absurd (hnone.symm.trans h) (by simp)⟩
  have hrequested := requested self
  generalize next self = after at hrequested ⊢
  obtain ⟨result, session⟩ := after
  cases hrequested with
  | sendsMapping hstate =>
    refine ⟨rfl, rfl, fun nonce h => .inl ⟨?_, rfl⟩⟩
    rw [hstate]
    exact h
  | idle => exact ⟨rfl, rfl, fun nonce h => .inl ⟨h, rfl⟩⟩
  | selects => exact hsilent _ _ _ rfl
  | asksNonce => exact hsilent _ _ _ rfl
  | sendsKey => exact hsilent _ _ _ rfl
  | sendsToken => exact hsilent _ _ _ rfl
  | handsOver => exact hsilent _ _ _ rfl
  | failed => exact hsilent _ _ _ rfl
  | drewAndFailed => exact hsilent _ _ _ rfl

lemma effect_feedResponse (self : PaceSession P κ) (response : Bytes) :
    Effect self (.feed response) (feedResponse response self).2 := by
  -- a session that waits for no nonce receives none
  have hkept : self.state ≠ .waitingForStep1 → Effect self (.feed response) self := by
    intro hstate
    refine ⟨rfl, rfl, fun nonce h => .inl ⟨h, ?_⟩⟩
    rw [← Option.not_isSome_iff_eq_none, Option.isSome_iff_exists]
    rintro ⟨enc, henc⟩
    exact hstate (receivedNonce_feed henc).1
  by_cases hsuccess : ∀ body, ResponseApdu.fromBytes response ≠ .ok ⟨StatusWord.success, body⟩
  · obtain ⟨result, -, hfeed⟩ := feedResponse_of_unsuccessful self hsuccess
    rw [hfeed]
    refine ⟨rfl, rfl, fun nonce h => .inl ⟨h, ?_⟩⟩
    rw [← Option.not_isSome_iff_eq_none, Option.isSome_iff_exists]
    rintro ⟨enc, henc⟩
    obtain ⟨-, data, hdata, -⟩ := receivedNonce_feed henc
    exact hsuccess _ hdata
  obtain ⟨body, hbody⟩ := not_forall.mp hsuccess
  have hbody := not_not.mp hbody
  rw [feedResponse_of_success self hbody]
  have hsilent : ∀ (engine : PaceEngine P) (entropy : Entropy) (state : PaceState),
      state.nonce = none →
        Effect self (.feed response) { self with engine, entropy, state } := by
    intro engine entropy state hnone
    exact ⟨rfl, rfl, fun nonce h => absurd (hnone.symm.trans h) (by simp)⟩
  have hconsumed := consumed self body
  generalize consumeBody body self = after at hconsumed ⊢
  obtain ⟨result, session⟩ := after
  cases hconsumed with
  | selected hstate => exact hsilent _ _ _ rfl
  | decrypted hstate hnonce =>
    refine ⟨rfl, rfl, fun nonce' hnonce' => ?_⟩
    obtain rfl := Option.some.inj hnonce'
    obtain ⟨data, hdata, hhandle⟩ := Outcome.bind_eq_ok.mp hnonce
    obtain ⟨enc, henc, hdec⟩ := Outcome.bind_eq_ok.mp hhandle
    obtain rfl : body = some data := Outcome.ofOption_eq_ok.mp hdata
    refine .inr ⟨enc, ?_, Outcome.mapErr_eq_ok.mp hdec⟩
    simp only [receivedNonce, hstate, hbody, Outcome.toOption_ok, Option.bind_some, if_true,
      Outcome.mapErr_eq_ok.mp henc]
  | mapped hstate hdrawn => exact hsilent _ _ _ rfl
  | agreed hstate hagreed => exact hsilent _ _ _ rfl
  | authenticated hstate hsm => exact hsilent _ _ _ rfl
  | failed hawaits hresult => exact hsilent _ _ _ rfl
  | idle hawaits =>
    refine hkept fun hstate => ?_
    rw [hstate] at hawaits
    cases hawaits

lemma effect_step (call : Dialogue.Call Bytes) (self : PaceSession P κ) :
    Effect self call (step call self).2 := by
  cases call with
  | next => exact effect_next self
  | feed response => exact effect_feedResponse self response

/-! ## Runs -/

/-- The encrypted nonce that a run has received last. -/
def lastReceived (init : PaceSession P κ) (calls : List (Dialogue.Call Bytes)) : Option Bytes :=
  Machine.last step receivedNonce init calls

/-- After a run the session has the password key that it began with, and holds no nonce, or the
decryption of the encrypted nonce that it received last. -/
structure Decrypted (init : PaceSession P κ) (calls : List (Dialogue.Call Bytes))
    (session : PaceSession P κ) : Prop where
  aes : session.protocol.cipherAlgorithm = .aes
  protocol : session.protocol = init.protocol
  kPi : session.kPi = init.kPi
  nonce : ∀ nonce, session.state.nonce = some nonce →
    ∃ enc key, lastReceived init calls = some enc ∧ init.kPi = some key ∧ enc.length % 16 = 0 ∧
      nonce = (P.aes key).cbcDecrypt (List.replicate 16 0) enc

lemma decrypted_run {init : PaceSession P κ} (haes : init.protocol.cipherAlgorithm = .aes)
    (hstart : init.state = .start) (calls : List (Dialogue.Call Bytes)) :
    Decrypted init calls (Machine.final step init calls) := by
  induction calls using List.reverseRecOn with
  | nil =>
    refine ⟨haes, rfl, rfl, ?_⟩
    intro nonce h
    rw [Machine.final_nil, hstart] at h
    simp [PaceState.nonce] at h
  | append_singleton calls call ih =>
    rw [Machine.final_concat]
    obtain ⟨hkey, hprotocol, hnonce⟩ := effect_step call (Machine.final step init calls)
    have hkPi : (step call (Machine.final step init calls)).2.kPi = init.kPi := by
      rw [← ih.kPi, PaceSession.kPi, PaceSession.kPi, hkey, hprotocol]
    refine ⟨hprotocol ▸ ih.aes, hprotocol.trans ih.protocol, hkPi, ?_⟩
    intro nonce h
    rw [lastReceived, Machine.last_concat]
    rcases hnonce nonce h with ⟨hheld, hnone⟩ | ⟨enc, henc, hdec⟩
    · rw [hnone, Option.none_or]
      exact ih.nonce nonce hheld
    · obtain ⟨key, hkey, hmod, hplain⟩ := (decryptNonce_eq_ok ih.aes).mp hdec
      rw [henc, Option.some_or]
      exact ⟨enc, key, rfl, ih.kPi ▸ hkey, hmod, hplain⟩

/-- The nonce that the session holds after a run, if any, is the decryption under `K_π` of the one
block that it received last. -/
def HoldsBlock (init : PaceSession P κ) (calls : List (Dialogue.Call Bytes)) : Prop :=
  ∀ nonce, (Machine.final step init calls).state.nonce = some nonce →
    ∃ block key, lastReceived init calls = some block ∧ block.length = 16 ∧
      init.kPi = some key ∧ nonce = (P.aes key).decrypt block

/-- After the same calls both sessions hold a nonce that came in the same block, and their password
keys decrypt that block differently. -/
structure Diverge (init : PaceSession P κ) (init' : PaceSession P κ')
    (calls : List (Dialogue.Call Bytes)) (nonce nonce' : Bytes) : Prop where
  held : (Machine.final step init calls).state.nonce = some nonce
  held' : (Machine.final step init' calls).state.nonce = some nonce'
  differs : ∃ block key key', lastReceived init calls = some block ∧
    lastReceived init' calls = some block ∧ init.kPi = some key ∧ init'.kPi = some key' ∧
    (P.aes key).decrypt block ≠ (P.aes key').decrypt block

/-- What binds two runs, on the same calls, to their passwords.  Every nonce is the decryption of one
block that was received.  Passwords that decrypt the block differently give different nonces; and
where both sessions have the same static key pair and accept the same response to the mapping, they
give different generators.  Both sessions have the same key pair, and the same random bytes left, as
long as they give the same replies. -/
structure PasswordBound (init : PaceSession P κ) (init' : PaceSession P κ')
    (calls : List (Dialogue.Call Bytes)) : Prop where
  block : ∀ past, past <+: calls → HoldsBlock init past
  block' : ∀ past, past <+: calls → HoldsBlock init' past
  nonce : ∀ past nonce nonce', past <+: calls → Diverge init init' past nonce nonce' →
    nonce ≠ nonce'
  randomness : ∀ past, past <+: calls → SameReplies init init' past →
    (Machine.final step init past).engine.static = (Machine.final step init' past).engine.static ∧
      (Machine.final step init past).entropy = (Machine.final step init' past).entropy
  generator : ∀ past response nonce nonce', past ++ [.feed response] <+: calls →
    Diverge init init' past nonce nonce' →
    (Machine.final step init past).engine.static = (Machine.final step init' past).engine.static →
    (step (.feed response) (Machine.final step init past)).1.isOk = true →
    (step (.feed response) (Machine.final step init' past)).1.isOk = true →
    (Machine.final step init (past ++ [.feed response])).engine.mapped ≠
      (Machine.final step init' (past ++ [.feed response])).engine.mapped

omit [AccessKey κ] in
/-- Every session that is made is in a group. -/
lemma grouped_new {key : κ} {protocol : OiePaceProtocol} {parameterId : Nat} {entropy : Entropy}
    {session : PaceSession P κ} (h : new P key protocol parameterId entropy = .ok session) :
    session.engine.Grouped := by
  unfold new at h
  split at h
  · obtain ⟨-, engine, rfl⟩ := newEcdh_eq_ok h
    trivial
  · obtain ⟨-, engine, hengine, rfl⟩ := newDh_eq_ok h
    obtain ⟨spec, hspec, e, he, hengine⟩ := DHPace.getDomainParameter_eq_ok hengine
    have hgroup : ∃ q, PrimeSubgroup spec q := by
      rcases hspec with rfl | rfl | rfl
      · exact ⟨_, primeSubgroup_1024_160⟩
      · exact ⟨_, primeSubgroup_2048_224⟩
      · exact ⟨_, primeSubgroup_2048_256⟩
    rw [hengine]
    refine ⟨hgroup, ?_⟩
    intro pair hpair
    rw [← Option.some.inj hpair, he]

/-- Whatever the caller does, a session stays in its group. -/
lemma grouped_run {session : PaceSession P κ} (h : session.engine.Grouped)
    (calls : List (Dialogue.Call Bytes)) :
    (Machine.final step session calls).engine.Grouped := by
  refine @engine_run P κ _ PaceEngine.Grouped
    (fun hself hdrawn => PaceEngine.grouped_generateMainKeyPair hself hdrawn) ?_ session h calls
  intro engine pub nonce entropy drawn hself hmap
  rw [← PaceEngine.grouped_static, (PaceEngine.mapAndGenerateEphemeral_eq_ok hmap).1,
    PaceEngine.grouped_static]
  exact hself

/-- A session that holds a nonce and accepts a response has mapped that nonce. -/
lemma mapped_of_accepted {self : PaceSession P κ} {nonce response : Bytes}
    (hheld : self.state.nonce = some nonce)
    (hok : (step (.feed response) self).1.isOk = true) :
    ∃ body pub drawn, ResponseApdu.fromBytes response = .ok ⟨StatusWord.success, body⟩ ∧
      chipPublicKey self.protocol body = .ok pub ∧
      self.engine.mapAndGenerateEphemeral pub nonce self.entropy = .ok drawn ∧
      (step (.feed response) self).2.engine = drawn.1 := by
  rw [step_feed] at hok ⊢
  by_cases hsuccess : ∀ body, ResponseApdu.fromBytes response ≠ .ok ⟨StatusWord.success, body⟩
  · obtain ⟨result, hresult, hfeed⟩ := feedResponse_of_unsuccessful self hsuccess
    rw [hfeed] at hok
    exact absurd hok (by rw [Dialogue.Reply.isOk, hresult, Bool.not_eq_true])
  obtain ⟨body, hbody⟩ := not_forall.mp hsuccess
  have hbody := not_not.mp hbody
  rw [feedResponse_of_success self hbody] at hok ⊢
  have hconsumed := consumed self body
  generalize consumeBody body self = after at hok hconsumed ⊢
  obtain ⟨result, session⟩ := after
  cases hconsumed with
  | mapped hstate hdrawn =>
    rw [hstate] at hheld
    obtain rfl := Option.some.inj hheld
    obtain ⟨pub, hpub, hmap⟩ := Outcome.bind_eq_ok.mp hdrawn
    exact ⟨body, pub, _, hbody, hpub, hmap, rfl⟩
  | failed hawaits hresult =>
    exact absurd hok (by rw [Dialogue.Reply.isOk, hresult, Bool.not_eq_true])
  | idle hawaits => cases hok
  | selected hstate => rw [hstate] at hheld; cases hheld
  | decrypted hstate hnonce => rw [hstate] at hheld; cases hheld
  | agreed hstate hagreed => rw [hstate] at hheld; cases hheld
  | authenticated hstate hsm => rw [hstate] at hheld; cases hheld

/-- The nonce of a run whose responses are one block long. -/
lemma holdsBlock_of_every {init : PaceSession P κ} (haes : init.protocol.cipherAlgorithm = .aes)
    (hstart : init.state = .start) {calls : List (Dialogue.Call Bytes)}
    (h : Machine.Every step (fun session call => session.oneBlock call = true) init calls)
    {past : List (Dialogue.Call Bytes)} (hpast : past <+: calls) : HoldsBlock init past := by
  intro nonce hnonce
  obtain ⟨enc, key, hlast, hkey, hmod, hplain⟩ := (decrypted_run haes hstart past).nonce nonce hnonce
  obtain ⟨before, call, hbefore, hreceived⟩ := Machine.exists_of_last step hlast
  have hgood := (Machine.every_iff step).mp h before call (hbefore.trans hpast)
  have hkPi := (decrypted_run haes hstart before).kPi
  rw [hkey] at hkPi
  rw [oneBlock, hreceived, Option.all_some, hkPi, hmod] at hgood
  have hlen : enc.length = 16 := by simpa using hgood
  exact ⟨enc, key, hlast, hlen, hkey, hplain.trans (BlockCipher.cbcDecrypt_single _ (by decide) hlen)⟩

/-- A run that holds blocks only has received blocks only. -/
lemma every_of_holdsBlock {init : PaceSession P κ} (haes : init.protocol.cipherAlgorithm = .aes)
    (hstart : init.state = .start) {calls : List (Dialogue.Call Bytes)}
    (h : ∀ past, past <+: calls → HoldsBlock init past) :
    Machine.Every step (fun session call => session.oneBlock call = true) init calls := by
  rw [Machine.every_iff]
  intro past call hpast
  have hrun := decrypted_run haes hstart past
  rw [oneBlock, Option.all_eq_true]
  intro enc henc
  rcases hkPi : (Machine.final step init past).kPi with _ | key
  · simp
  by_cases hmod : enc.length % 16 = 0
  swap
  · simp [hmod]
  -- the response is taken, and the nonce it leaves is as long as what was sent
  have hdec := (decryptNonce_eq_ok hrun.aes).mpr ⟨key, hkPi, hmod, rfl⟩
  have hstate := state_of_received henc hdec
  obtain ⟨block, key', -, hblock, -, hplain⟩ := h _ hpast _ (by
    rw [Machine.final_concat, hstate, PaceState.nonce])
  have hlen := congrArg List.length hplain
  rw [BlockCipher.length_cbcDecrypt _ (List.length_replicate) hmod,
    (P.aes key').length_decrypt block hblock] at hlen
  simp [hlen]

/-- **Password binding.**  Two sessions that are made with the same protocol, parameters and random
bytes, and driven with the same calls, are bound to their passwords exactly when every encrypted
nonce that either of them takes is one block long. -/
theorem passwordBound_iff {key : κ} {key' : κ'} {protocol : OiePaceProtocol} {parameterId : Nat}
    {entropy : Entropy} {init : PaceSession P κ} {init' : PaceSession P κ'}
    (hnew : new P key protocol parameterId entropy = .ok init)
    (hnew' : new P key' protocol parameterId entropy = .ok init')
    (calls : List (Dialogue.Call Bytes)) :
    PasswordBound init init' calls ↔
      Machine.Every step (fun session call => session.oneBlock call = true) init calls ∧
      Machine.Every step (fun session call => session.oneBlock call = true) init' calls := by
  obtain ⟨hwf, hstart, hprotocol, -⟩ := new_eq_ok hnew
  obtain ⟨hwf', hstart', hprotocol', -⟩ := new_eq_ok hnew'
  constructor
  · intro h
    exact ⟨every_of_holdsBlock hwf.aes hstart h.block, every_of_holdsBlock hwf'.aes hstart' h.block'⟩
  rintro ⟨hevery, hevery'⟩
  have hblock := fun past => @holdsBlock_of_every P κ _ init hwf.aes hstart calls hevery past
  have hblock' := fun past => @holdsBlock_of_every P κ' _ init' hwf'.aes hstart' calls hevery' past
  -- both nonces are the decryptions of the block in question
  have hne : ∀ past nonce nonce', past <+: calls → Diverge init init' past nonce nonce' →
      nonce.length = 16 ∧ nonce'.length = 16 ∧ nonce ≠ nonce' := by
    rintro past nonce nonce' hpast ⟨hheld, hheld', block, k, k', hlast, hlast', hk, hk', hdiffers⟩
    obtain ⟨b, l, hb, hlen, hl, rfl⟩ := hblock past hpast nonce hheld
    obtain ⟨b', l', hb', -, hl', rfl⟩ := hblock' past hpast nonce' hheld'
    obtain rfl : b = block := Option.some.inj (hb.symm.trans hlast)
    obtain rfl : b' = b := Option.some.inj (hb'.symm.trans hlast')
    obtain rfl : l = k := Option.some.inj (hl.symm.trans hk)
    obtain rfl : l' = k' := Option.some.inj (hl'.symm.trans hk')
    exact ⟨(P.aes l).length_decrypt b' hlen, (P.aes l').length_decrypt b' hlen, hdiffers⟩
  refine ⟨hblock, hblock', fun past nonce nonce' hpast h => (hne past nonce nonce' hpast h).2.2,
    ?_, ?_⟩
  · intro past hpast hreplies
    have hcourse := course_run (course_new hnew hnew') hreplies
    simp only [course, PaceCourse.mk.injEq] at hcourse
    exact hcourse.2
  · intro past response nonce nonce' hpast hdiverge hstatic hok hok'
    have hprefix := (List.prefix_append past [Dialogue.Call.feed response]).trans hpast
    obtain ⟨hlen, hlen', hnonce⟩ := hne past nonce nonce' hprefix hdiverge
    obtain ⟨body, pub, drawn, hparse, hpub, hmap, hengine⟩ := mapped_of_accepted hdiverge.held hok
    obtain ⟨body', pub', drawn', hparse', hpub', hmap', hengine'⟩ :=
      mapped_of_accepted hdiverge.held' hok'
    -- both sessions read the same key of the chip
    rw [hparse, Outcome.ok.injEq, ResponseApdu.mk.injEq] at hparse'
    have hsame : (Machine.final step init past).protocol =
        (Machine.final step init' past).protocol := by
      rw [(decrypted_run hwf.aes hstart past).protocol, hprotocol,
        (decrypted_run hwf'.aes hstart' past).protocol, hprotocol']
    rw [← hsame, ← hparse'.2, hpub, Outcome.ok.injEq] at hpub'
    rw [← hpub'] at hmap'
    rw [Machine.final_concat, Machine.final_concat, hengine, hengine']
    exact PaceEngine.mapped_ne hstatic (grouped_run (grouped_new hnew) past) hlen hlen' hnonce hmap
      hmap'

/-! ## Two card access numbers -/

/-- The card access number 654321. -/
def otherKey : CanKey := ⟨[0x36, 0x35, 0x34, 0x33, 0x32, 0x31], rfl⟩

/-- SHA-1 and AES as they answer for the two numbers. -/
def bindingRecording : Primitives.Recording where
  sha1 := [
    Primitives.Recording.digest 10 0x31323334353600000003
      0x591468CDA83D65219CCCB8560233600FFB3AC260,
    Primitives.Recording.digest 10 0x36353433323100000003
      0x55A94053DB1D15674E0FFF4BE93C8F8C7AD1A612]
  des := []
  tdes := []
  aes := [
    Primitives.Recording.blocks 16 16 0x591468CDA83D65219CCCB8560233600F
      [(echoNonce, 0x84EBAB7F2DE981C6FA6922A691AE0911)],
    Primitives.Recording.blocks 16 16 0x55A94053DB1D15674E0FFF4BE93C8F8C
      [(0x35EE51E00560E482C80F5DB0D906CE83, 0x84EBAB7F2DE981C6FA6922A691AE0911)]]
  cmac := []

/-- A new session in the first group, with a card access number. -/
def bindingSession (key : CanKey) :
    Outcome PaceSessionError (PaceSession (Primitives.replay bindingRecording) CanKey) :=
  new (Primitives.replay bindingRecording) key echoProtocol 0 echoEntropy

/-- A handshake up to the mapping, in which the chip sends `enc` as the encrypted nonce. -/
def mappingCalls (enc : Bytes) : List (Dialogue.Call Bytes) := [
  .next, .feed StatusWord.success.toBytes, .next, .feed (echoResponse 0x80 enc),
  .next, .feed (echoResponse 0x82 (toBE 128 rfc5114_1024_160.g))]

lemma bindingSession_run : (bindingSession echoKey).isOkAnd fun init =>
    (bindingSession otherKey).isOkAnd fun init' =>
      decide (Machine.Every step (fun session call => session.oneBlock call = true) init
        (mappingCalls (toBE 16 0x84EBAB7F2DE981C6FA6922A691AE0911))) &&
      decide (Machine.Every step (fun session call => session.oneBlock call = true) init'
        (mappingCalls (toBE 16 0x84EBAB7F2DE981C6FA6922A691AE0911))) &&
      decide ((Machine.final step init
        ((mappingCalls (toBE 16 0x84EBAB7F2DE981C6FA6922A691AE0911)).take 5)).state.nonce =
          some (toBE 16 echoNonce)) &&
      decide ((Machine.final step init'
        ((mappingCalls (toBE 16 0x84EBAB7F2DE981C6FA6922A691AE0911)).take 5)).state.nonce =
          some (toBE 16 0x35EE51E00560E482C80F5DB0D906CE83)) := by
  decide +kernel

/-- One block that decrypts to two nonces under the two numbers. -/
theorem passwordBound_iff_two_numbers : ∃ init init',
    bindingSession echoKey = .ok init ∧ bindingSession otherKey = .ok init' ∧
    (Machine.final step init
      ((mappingCalls (toBE 16 0x84EBAB7F2DE981C6FA6922A691AE0911)).take 5)).state.nonce =
        some (toBE 16 echoNonce) ∧
    (Machine.final step init'
      ((mappingCalls (toBE 16 0x84EBAB7F2DE981C6FA6922A691AE0911)).take 5)).state.nonce =
        some (toBE 16 0x35EE51E00560E482C80F5DB0D906CE83) ∧
    PasswordBound init init' (mappingCalls (toBE 16 0x84EBAB7F2DE981C6FA6922A691AE0911)) := by
  obtain ⟨init, hnew, hrun⟩ := Outcome.isOkAnd_iff.mp bindingSession_run
  obtain ⟨init', hnew', hrun⟩ := Outcome.isOkAnd_iff.mp hrun
  simp only [Bool.and_eq_true, decide_eq_true_eq] at hrun
  obtain ⟨⟨⟨hevery, hevery'⟩, hnonce⟩, hnonce'⟩ := hrun
  exact ⟨init, init', hnew, hnew', hnonce, hnonce',
    (passwordBound_iff hnew hnew' _).mpr ⟨hevery, hevery'⟩⟩

lemma bindingSession_empty_run : (bindingSession echoKey).isOkAnd fun init =>
    (bindingSession otherKey).isOkAnd fun init' =>
      decide ((Machine.final step init ((mappingCalls []).take 4)).state.nonce = some []) &&
      decide ((Machine.final step init' ((mappingCalls []).take 4)).state.nonce = some []) &&
      (Machine.final step init (mappingCalls [])).engine.mapped.isSome &&
      decide ((Machine.final step init (mappingCalls [])).engine.mapped =
        (Machine.final step init' (mappingCalls [])).engine.mapped) := by
  decide +kernel

/-- A chip that sends the empty value as the encrypted nonce: under both numbers the nonce is empty,
and both map the generator to the same one. -/
theorem empty_nonce_fixes_generator : ∃ init init',
    bindingSession echoKey = .ok init ∧ bindingSession otherKey = .ok init' ∧
    (Machine.final step init ((mappingCalls []).take 4)).state.nonce = some [] ∧
    (Machine.final step init' ((mappingCalls []).take 4)).state.nonce = some [] ∧
    (Machine.final step init (mappingCalls [])).engine.mapped.isSome = true ∧
    (Machine.final step init (mappingCalls [])).engine.mapped =
      (Machine.final step init' (mappingCalls [])).engine.mapped ∧
    ¬ PasswordBound init init' (mappingCalls []) := by
  obtain ⟨init, hnew, hrun⟩ := Outcome.isOkAnd_iff.mp bindingSession_empty_run
  obtain ⟨init', hnew', hrun⟩ := Outcome.isOkAnd_iff.mp hrun
  simp only [Bool.and_eq_true, decide_eq_true_eq] at hrun
  obtain ⟨⟨⟨hnonce, hnonce'⟩, hsome⟩, hmapped⟩ := hrun
  refine ⟨init, init', hnew, hnew', hnonce, hnonce', hsome, hmapped, ?_⟩
  intro hbound
  obtain ⟨block, key, -, hlen, -, hplain⟩ :=
    hbound.block _ (List.take_prefix 4 (mappingCalls [])) [] hnonce
  have hlength := (((Primitives.replay bindingRecording).aes key).length_decrypt block hlen)
  rw [← hplain] at hlength
  simp at hlength

end PaceSession

end Dmrtd
