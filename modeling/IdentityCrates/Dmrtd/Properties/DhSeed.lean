import IdentityCrates.Dmrtd.Properties.PaceEngineFrame

/-!
# The seed of a DH session

The two branches of `ephemeral_shared_seed` turn what was agreed on into the octet string that the
session keys are derived from.  The ECDH branch takes the x coordinate at the width of the curve, with
its leading zeros.  The DH branch goes through `big_uint_to_bytes`, which has none.

So the seed of a DH session is as long as the modulus exactly when the agreed number needs that many
bytes (`agreedSeed_length_iff`).  One run in some 256 agrees on a smaller number, and then derives its
keys from a shorter string than a chip that keeps the zeros; `agreedSeed_short` is such a run.

The statement is about every run: whatever the caller asks and feeds, the engine stays in the group it
was made for (`inGroup_run`), and everything the seed depends on is read off that engine.
-/

namespace Dmrtd

open Rust Octets

/-! ## The engine stays in its group -/

namespace PaceEngine

variable {P : Primitives}

/-- A DH engine in the group `spec`, whose ephemeral pair, if it has one, has the same modulus. -/
def InGroup (spec : DhParameterSpec) : PaceEngine P → Prop
  | .ecdh _ => False
  | .dh e => e.domainSpec = spec ∧ ∀ pair, e.ephemeral = some pair → pair.parameterSpec.p = spec.p

lemma inGroup_generateMainKeyPair {spec : DhParameterSpec} {engine : PaceEngine P}
    (h : engine.InGroup spec) {entropy : Entropy} {drawn : PaceEngine P × Entropy}
    (hdrawn : engine.generateMainKeyPair entropy = .ok drawn) : drawn.1.InGroup spec := by
  cases engine with
  | ecdh e => exact absurd h id
  | dh e =>
    obtain ⟨pair, hpair, hnext⟩ := Outcome.bind_eq_ok.mp hdrawn
    obtain ⟨_, -, hengine⟩ := DHPace.generateKeyPair_eq_ok (Outcome.mapErr_eq_ok.mp hpair)
    rw [Outcome.pure_eq, Outcome.ok.injEq] at hnext
    rw [← hnext, hengine]
    exact h

lemma inGroup_mapAndGenerateEphemeral {spec : DhParameterSpec} {engine : PaceEngine P}
    (h : engine.InGroup spec) {pub : PublicKeyPace} {nonce : Bytes} {entropy : Entropy}
    {drawn : PaceEngine P × Entropy}
    (hdrawn : engine.mapAndGenerateEphemeral pub nonce entropy = .ok drawn) :
    drawn.1.InGroup spec := by
  cases engine with
  | ecdh e => exact absurd h id
  | dh e =>
    obtain ⟨gPrime, -, hrest⟩ := Outcome.bind_eq_ok.mp hdrawn
    obtain ⟨pair, hpair, hnext⟩ := Outcome.bind_eq_ok.mp hrest
    obtain ⟨ephemeral, hspec, hengine⟩ :=
      DHPace.generateEphemeral_eq_ok (Outcome.mapErr_eq_ok.mp hpair)
    rw [Outcome.pure_eq, Outcome.ok.injEq] at hnext
    rw [← hnext, hengine]
    refine ⟨h.1, ?_⟩
    intro pair' hpair'
    rw [← Option.some.inj hpair', hspec]
    show e.domainSpec.p = spec.p
    rw [h.1]

end PaceEngine

/-- A number below the modulus needs as many bytes as the modulus exactly from the first power of
256 on that needs them. -/
lemma byteCount_eq_iff {secret p : Nat} (hlt : secret < p) :
    byteCount secret = byteCount p ↔ 256 ^ (byteCount p - 1) ≤ secret := by
  have hle : byteCount secret ≤ byteCount p :=
    (byteCount_le_iff _ _).mpr (hlt.trans (lt_pow_byteCount p))
  have hpos : 0 < byteCount p := byteCount_pos (by omega)
  have hshort := byteCount_le_iff secret (byteCount p - 1)
  constructor
  · intro heq
    by_contra hlow
    have := hshort.mpr (Nat.lt_of_not_le hlow)
    omega
  · intro hhigh
    have hnot : ¬ byteCount secret ≤ byteCount p - 1 := by
      intro h
      exact Nat.not_le.mpr (hshort.mp h) hhigh
    omega

namespace PaceSession

variable {P : Primitives} {κ : Type} [AccessKey κ]

/-- Whatever the caller does, a DH session stays in its group. -/
lemma inGroup_run {spec : DhParameterSpec} {session : PaceSession P κ}
    (h : session.engine.InGroup spec) (calls : List (Dialogue.Call Bytes)) :
    (Machine.final step session calls).engine.InGroup spec :=
  @engine_run P κ _ (PaceEngine.InGroup spec)
    (fun hself hdrawn => PaceEngine.inGroup_generateMainKeyPair hself hdrawn)
    (fun hself hmap => PaceEngine.inGroup_mapAndGenerateEphemeral hself hmap) session h calls

/-! ## How long the seed is -/

/-- What `ephemeral_shared_seed` returns in the DH branch: the bytes of the peer key raised to the
private key. -/
lemma ephemeralSharedSeed_dh {spec : DhParameterSpec} {engine : PaceEngine P}
    (h : engine.InGroup spec) {peer : PublicKeyPace} {seed : Bytes}
    (hseed : engine.ephemeralSharedSeed peer = .ok seed) :
    ∃ e pair, engine = .dh e ∧ e.domainSpec = spec ∧ e.ephemeral = some pair ∧
      pair.parameterSpec.p = spec.p ∧
      seed = bigUintToBytes (ofBE peer.toRelevantBytes ^ pair.privateKey % spec.p) := by
  cases engine with
  | ecdh e => exact absurd h id
  | dh e =>
    obtain ⟨secret, hsecret, hbytes⟩ := Outcome.bind_eq_ok.mp hseed
    obtain ⟨pair, hpair, hcompute⟩ := Outcome.bind_eq_ok.mp (Outcome.mapErr_eq_ok.mp hsecret)
    have heph := Outcome.ofOption_eq_ok.mp hpair
    have hp := h.2 pair heph
    obtain ⟨-, hvalue⟩ :=
      DHpkcs3Engine.computeSecretKey_eq_ok.mp (Outcome.mapErr_eq_ok.mp hcompute)
    refine ⟨e, pair, rfl, h.1, heph, hp, ?_⟩
    rw [Outcome.pure_eq, Outcome.ok.injEq] at hbytes
    rw [← hbytes, hvalue, ModPow.modPow_eq, hp]

omit [AccessKey κ] in
/-- A new DH session is in one of the three groups. -/
lemma newDh_inGroup {key : κ} {protocol : OiePaceProtocol} {parameterId : Nat} {entropy : Entropy}
    {session : PaceSession P κ} (h : newDh P key protocol parameterId entropy = .ok session) :
    ∃ spec, session.engine.InGroup spec ∧ 0 < spec.p := by
  obtain ⟨-, engine, hengine, rfl⟩ := newDh_eq_ok h
  have hfits := fits_getDomainParameter hengine
  exact ⟨engine.1.domainSpec, ⟨rfl, hfits.ephemeral_p⟩, hfits.p_pos⟩

/-- **The length of the seed.**  In every run of a DH session, for every peer key that the session
accepts: the octet string that the keys are derived from is as long as the modulus if and only if the
peer key, raised to the ephemeral private key modulo `p`, is at least `256 ^ (k - 1)`, with `k` the
byte length of the modulus. -/
theorem agreedSeed_length_iff {key : κ} {protocol : OiePaceProtocol} {parameterId : Nat}
    {entropy : Entropy} {session : PaceSession P κ}
    (hnew : newDh P key protocol parameterId entropy = .ok session)
    (calls : List (Dialogue.Call Bytes)) {peer : PublicKeyPace} {seed : Bytes}
    (hseed : (Machine.final step session calls).engine.ephemeralSharedSeed peer = .ok seed) :
    ∃ e pair, (Machine.final step session calls).engine = .dh e ∧ e.ephemeral = some pair ∧
      (seed.length = e.modulusByteLen ↔
        256 ^ (e.modulusByteLen - 1) ≤
          ofBE peer.toRelevantBytes ^ pair.privateKey % e.domainSpec.p) ∧
      ∀ body, chipPublicKey (Machine.final step session calls).protocol body = .ok peer →
        (Machine.final step session calls).handleStep3 body =
          .ok (peer, Pace.calculateEncKey P (Machine.final step session calls).protocol seed,
            Pace.calculateMacKey P (Machine.final step session calls).protocol seed) := by
  obtain ⟨spec, hgroup, hpos⟩ := newDh_inGroup hnew
  obtain ⟨e, pair, hengine, hspec, hpair, hp, hvalue⟩ :=
    ephemeralSharedSeed_dh (inGroup_run hgroup calls) hseed
  refine ⟨e, pair, hengine, hpair, ?_, ?_⟩
  · have hlen : e.modulusByteLen = byteCount spec.p := by
      rw [DHPace.modulusByteLen, hspec]
      rfl
    rw [hlen, hspec, hvalue, length_bigUintToBytes]
    exact byteCount_eq_iff (Nat.mod_lt _ hpos)
  · intro body hbody
    rw [handleStep3, hbody, Outcome.ok_bind, hseed]
    rfl

/-! ### A run that agrees on a number with a leading zero byte -/

/-- A session in the first group that draws the private keys one, two and three, over primitives that
hide nothing. -/
def smallKeysSession : Outcome PaceSessionError (PaceSession .transparent CanKey) :=
  newDh .transparent echoKey echoProtocol 0 echoEntropy

/-- The calls up to the point where the session waits for the chip's ephemeral key; the nonce
arrives as it is, and the chip's mapping key is the generator. -/
def callsToStep3 : List (Dialogue.Call Bytes) := [
  .next, .feed StatusWord.success.toBytes,
  .next, .feed (echoResponse 0x80 (toBE 16 1)),
  .next, .feed (echoResponse 0x82 (toBE 128 rfc5114_1024_160.g)),
  .next]

/-- The chip key with private key `x`. -/
def chipKey (x : Nat) : PublicKeyPace :=
  .dh (toBE 128 (ModPow.modPow rfc5114_1024_160.g x rfc5114_1024_160.p))

/-- The length of the seed that the session agrees on with a chip key, next to that of the modulus. -/
def seedLength (session : PaceSession .transparent CanKey) (x : Nat) : Option (Nat × Nat) :=
  match (Machine.final step session callsToStep3).engine with
  | .dh e =>
    ((PaceEngine.dh e : PaceEngine .transparent).ephemeralSharedSeed (chipKey x)).toOption.map
      fun seed => (seed.length, e.modulusByteLen)
  | .ecdh _ => none

lemma seedLength_eq_some {session : PaceSession .transparent CanKey} {x n k : Nat}
    (h : seedLength session x = some (n, k)) :
    ∃ e seed, (Machine.final step session callsToStep3).engine = .dh e ∧
      (Machine.final step session callsToStep3).engine.ephemeralSharedSeed (chipKey x) = .ok seed ∧
      seed.length = n ∧ e.modulusByteLen = k := by
  unfold seedLength at h
  split at h
  · rename_i e hengine
    obtain ⟨seed, hseed, hlen⟩ := Option.map_eq_some_iff.mp h
    obtain ⟨hn, hk⟩ := Prod.mk.inj hlen
    exact ⟨e, seed, hengine, by rw [hengine, Outcome.toOption_eq_some.mp hseed], hn, hk⟩
  · exact absurd h (by simp)

lemma seedLength_chipKeys : smallKeysSession.isOkAnd fun session =>
    decide (seedLength session 1 = some (128, 128)) &&
      decide (seedLength session 16 = some (127, 128)) := by
  decide +kernel

/-- With the generator for a chip key the seed has the full length, so the cube of the generator does
not start with a zero byte. -/
theorem agreedSeed_full : ∃ session e pair, smallKeysSession = .ok session ∧
    (Machine.final step session callsToStep3).engine = .dh e ∧ e.ephemeral = some pair ∧
    256 ^ (e.modulusByteLen - 1) ≤
      ofBE (chipKey 1).toRelevantBytes ^ pair.privateKey % e.domainSpec.p := by
  obtain ⟨session, hnew, hrun⟩ := Outcome.isOkAnd_iff.mp seedLength_chipKeys
  obtain ⟨e, seed, hengine, hseed, hlen, hk⟩ :=
    seedLength_eq_some (of_decide_eq_true (Bool.and_eq_true_iff.mp hrun).1)
  obtain ⟨e', pair, hengine', hpair, hiff, -⟩ := agreedSeed_length_iff hnew callsToStep3 hseed
  obtain rfl : e = e' := PaceEngine.dh.inj (hengine.symm.trans hengine')
  exact ⟨session, e, pair, hnew, hengine, hpair, hiff.mp (hlen.trans hk.symm)⟩

/-- With the sixteenth power of the generator for a chip key the session derives its keys from 127
bytes, one fewer than the modulus has. -/
theorem agreedSeed_short : ∃ session e seed, smallKeysSession = .ok session ∧
    (Machine.final step session callsToStep3).engine = .dh e ∧
    (Machine.final step session callsToStep3).engine.ephemeralSharedSeed (chipKey 16) = .ok seed ∧
    seed.length = 127 ∧ e.modulusByteLen = 128 := by
  obtain ⟨session, hnew, hrun⟩ := Outcome.isOkAnd_iff.mp seedLength_chipKeys
  obtain ⟨e, seed, hengine, hseed, hlen, hk⟩ :=
    seedLength_eq_some (of_decide_eq_true (Bool.and_eq_true_iff.mp hrun).2)
  exact ⟨session, e, seed, hnew, hengine, hseed, hlen, hk⟩

end PaceSession

end Dmrtd
