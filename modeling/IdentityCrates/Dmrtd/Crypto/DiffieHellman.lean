import IdentityCrates.Lib.Outcome
import IdentityCrates.Lib.ModPow
import IdentityCrates.Dmrtd.Crypto.Primitives
import IdentityCrates.Dmrtd.Utils

/-!
# PKCS #3 Diffie-Hellman

`diffie_hellman.rs`.  An engine holds a group and a key pair, and its type carries what the
constructor establishes: the private key is in range and the public key belongs to it.

Private keys are drawn by rejection sampling from the tape of random bytes.  A draw takes its bytes
off the tape and hands back the rest; a tape that runs out stands for a generator that fails, on
which the source panics.
-/

namespace Dmrtd

open Rust Octets

/-- `DhPkcs3EngineError`. -/
structure DhPkcs3EngineError where
  message : String
  deriving DecidableEq, Repr

/-- `DhParameterSpec`: modulus, generator, private-key bit length, and the order of the subgroup
that the generator spans, where it is known. -/
structure DhParameterSpec where
  p : Nat
  g : Nat
  length : Nat
  q : Option Nat
  deriving DecidableEq, Repr

/-- The exclusive upper bound that `DHpkcs3Engine::new` puts on private keys. -/
def DhParameterSpec.upper (spec : DhParameterSpec) : Nat := spec.q.getD (spec.p - 1)

/-- `DHpkcs3Engine`. -/
structure DHpkcs3Engine where
  parameterSpec : DhParameterSpec
  publicKey : Nat
  privateKey : Nat
  privateKey_pos : 0 < privateKey
  privateKey_lt : privateKey < parameterSpec.upper
  publicKey_eq : publicKey = ModPow.modPow parameterSpec.g privateKey parameterSpec.p

namespace DHpkcs3Engine

/-! ## Private keys -/

/-- The buffer of one attempt, with the surplus high bits of its first byte cleared. -/
def maskBuffer (keepBits : Nat) (buf : Bytes) : Bytes :=
  let excess := buf.length * 8 - keepBits
  match buf with
  | first :: rest => if excess > 0 then (first &&& (0xFF >>> UInt8.ofNat excess)) :: rest else buf
  | [] => []

/-- The loop of `draw_in_range`, for at most `fuel` attempts with a buffer of `size` bytes. -/
def drawInRangeFuel (size lower upper keepBits : Nat) : Nat → Entropy → Option (Nat × Entropy)
  | 0, _ => none
  | fuel + 1, entropy =>
    if entropy.length < size then none
    else
      let n := ofBE (maskBuffer keepBits (entropy.take size))
      if lower ≤ n ∧ n < upper then some (n, entropy.drop size)
      else drawInRangeFuel size lower upper keepBits fuel (entropy.drop size)

/-- `draw_in_range`.  Every attempt takes at least one byte, so a tape of `n` bytes ends after at
most `n` of them. -/
def drawInRange (size lower upper keepBits : Nat) (entropy : Entropy) :
    Outcome DhPkcs3EngineError (Nat × Entropy) :=
  match drawInRangeFuel size lower upper keepBits (entropy.length + 1) entropy with
  | some drawn => .ok drawn
  | none => .panic

/-- `generate_private_key`: uniform below the subgroup order where it is known, and of exactly
`length` bits, capped at `p - 1`, where it is not. -/
def generatePrivateKey (spec : DhParameterSpec) (entropy : Entropy) :
    Outcome DhPkcs3EngineError (Nat × Entropy) :=
  match spec.q with
  | some q =>
    if q ≤ 1 then .err ⟨s!"Invalid subgroup order q - must be greater than 1, got {q}"⟩
    else
      let keepBits := bitCount q
      let byteLen := (keepBits + 7) / 8
      drawInRange (max byteLen 1) 1 q keepBits entropy
  | none =>
    if spec.length = 0 ∨ spec.length % 8 ≠ 0 then
      .err ⟨s!"Invalid bitLength value - {spec.length}"⟩
    else if spec.p = 0 then .panic
    else
      let lower := 1 <<< (spec.length - 1)
      let upper := min (1 <<< spec.length) (spec.p - 1)
      if upper ≤ lower then
        .err ⟨s!"No valid private-key range: 2^(length-1) ({lower}) >= min(2^length, p-1) ({upper})"⟩
      else drawInRange (spec.length / 8) lower upper spec.length entropy

/-- `DHpkcs3Engine::new`. -/
def new (parameterSpec : DhParameterSpec) (privateKey : Option Nat) (entropy : Entropy) :
    Outcome DhPkcs3EngineError (DHpkcs3Engine × Entropy) := do
  let drawn ← (match privateKey with
    | some privKey => .ok (privKey, entropy)
    | none => generatePrivateKey parameterSpec entropy :
      Outcome DhPkcs3EngineError (Nat × Entropy))
  if hpos : drawn.1 = 0 then .err ⟨"Private key must not be zero"⟩
  else if parameterSpec.q.isNone ∧ parameterSpec.p = 0 then .panic
  else if hlt : drawn.1 ≥ parameterSpec.upper then
    let order := if parameterSpec.q.isSome then "subgroup" else "group"
    .err ⟨s!"Private key must be less than the {order} order"⟩
  -- the public key cannot be computed modulo zero
  else if parameterSpec.p = 0 then .panic
  else
    .ok (⟨parameterSpec, ModPow.modPow parameterSpec.g drawn.1 parameterSpec.p, drawn.1,
      Nat.pos_of_ne_zero hpos, Nat.lt_of_not_ge hlt, rfl⟩, drawn.2)

/-! ## Agreement -/

variable (self : DHpkcs3Engine)

/-- `validate_peer_public_key`. -/
def validatePeerPublicKey (y : Nat) : Outcome DhPkcs3EngineError Unit :=
  let p := self.parameterSpec.p
  if p < 2 then .err ⟨"Invalid DH modulus p (must be >= 2)"⟩
  else if y < 2 ∨ y > p - 2 then
    .err ⟨"Peer DH public key out of range; require 2 <= y <= p-2"⟩
  else
    match self.parameterSpec.q with
    | some q =>
      if ModPow.modPow y q p ≠ 1 then
        .err ⟨"Peer DH public key fails small-subgroup check (y^q mod p != 1)"⟩
      else .ok ()
    | none => .ok ()

/-- `compute_secret_key`. -/
def computeSecretKey (otherPublicKey : Nat) : Outcome DhPkcs3EngineError Nat := do
  self.validatePeerPublicKey otherPublicKey
  return ModPow.modPow otherPublicKey self.privateKey self.parameterSpec.p

/-- `compute_generator`: the generator mapped by a nonce and a shared secret. -/
def computeGenerator (otherPublicKey nonce : Nat) : Outcome DhPkcs3EngineError Nat := do
  let h ← self.computeSecretKey otherPublicKey
  let p := self.parameterSpec.p
  let gExp := ModPow.modPow self.parameterSpec.g nonce p
  let gPrime := gExp * h % p
  if gPrime < 2 ∨ gPrime > p - 2 then
    .err ⟨"Mapped generator is degenerate (outside [2, p-2])"⟩
  else .ok gPrime

/-! ## What is drawn and what is accepted -/

/-- What the loop returns is in range, and the tape it hands back is the end of the one it was
given. -/
lemma drawInRangeFuel_eq_some {size lower upper keepBits fuel n : Nat} {entropy rest : Entropy}
    (h : drawInRangeFuel size lower upper keepBits fuel entropy = some (n, rest)) :
    lower ≤ n ∧ n < upper := by
  induction fuel generalizing entropy with
  | zero => simp [drawInRangeFuel] at h
  | succ fuel ih =>
    rw [drawInRangeFuel] at h
    split at h
    · simp at h
    · simp only at h
      split at h
      · rename_i hrange
        obtain ⟨rfl, -⟩ := Prod.mk.inj (Option.some.inj h)
        exact hrange
      · exact ih h

lemma drawInRange_eq_ok {size lower upper keepBits n : Nat} {entropy rest : Entropy}
    (h : drawInRange size lower upper keepBits entropy = .ok (n, rest)) : lower ≤ n ∧ n < upper := by
  rw [drawInRange] at h
  split at h
  · rename_i drawn hdrawn
    rw [Outcome.ok.injEq] at h
    rw [h] at hdrawn
    exact drawInRangeFuel_eq_some hdrawn
  · simp at h

/-- An engine holds the group it was made for. -/
lemma new_eq_ok {spec : DhParameterSpec} {privateKey : Option Nat} {entropy rest : Entropy}
    {engine : DHpkcs3Engine} (h : new spec privateKey entropy = .ok (engine, rest)) :
    engine.parameterSpec = spec := by
  unfold new at h
  rw [Outcome.bind_eq_ok] at h
  obtain ⟨drawn, -, h⟩ := h
  split at h
  · simp at h
  split at h
  · simp at h
  split at h
  · simp at h
  split at h
  · simp at h
  · obtain ⟨rfl, -⟩ := Prod.mk.inj (Outcome.ok.inj h)
    rfl

variable {self}

lemma validatePeerPublicKey_eq_ok {y : Nat} {u : Unit} :
    self.validatePeerPublicKey y = .ok u ↔
      2 ≤ self.parameterSpec.p ∧ 2 ≤ y ∧ y ≤ self.parameterSpec.p - 2 ∧
        ∀ q, self.parameterSpec.q = some q → ModPow.modPow y q self.parameterSpec.p = 1 := by
  simp only [validatePeerPublicKey]
  by_cases hp : self.parameterSpec.p < 2
  · simp only [if_pos hp, reduceCtorEq, false_iff]
    exact fun h => absurd h.1 (Nat.not_le.mpr hp)
  by_cases hy : y < 2 ∨ y > self.parameterSpec.p - 2
  · simp only [if_neg hp, if_pos hy, reduceCtorEq, false_iff]
    rintro ⟨-, hlow, hhigh, -⟩
    rcases hy with hy | hy
    · exact absurd hlow (Nat.not_le.mpr hy)
    · exact absurd hhigh (Nat.not_le.mpr hy)
  obtain ⟨hlow, hhigh⟩ := not_or.mp hy
  rw [if_neg hp, if_neg hy, and_iff_right (Nat.le_of_not_lt hp),
    and_iff_right (Nat.le_of_not_lt hlow), and_iff_right (Nat.le_of_not_lt hhigh)]
  cases hq : self.parameterSpec.q with
  | none => simp
  | some q =>
    by_cases hsub : ModPow.modPow y q self.parameterSpec.p = 1
    · simp [hsub]
    · simp [hsub]

lemma computeSecretKey_eq_ok {y s : Nat} :
    self.computeSecretKey y = .ok s ↔ self.validatePeerPublicKey y = .ok () ∧
      s = ModPow.modPow y self.privateKey self.parameterSpec.p := by
  simp only [computeSecretKey, Outcome.bind_eq_ok, Outcome.pure_eq, Outcome.ok.injEq]
  constructor
  · rintro ⟨_, hvalid, rfl⟩
    exact ⟨hvalid, rfl⟩
  · rintro ⟨hvalid, rfl⟩
    exact ⟨(), hvalid, rfl⟩

lemma computeGenerator_eq_ok {y nonce gPrime : Nat} :
    self.computeGenerator y nonce = .ok gPrime ↔
      ∃ h, self.computeSecretKey y = .ok h ∧
        gPrime = ModPow.modPow self.parameterSpec.g nonce self.parameterSpec.p * h %
          self.parameterSpec.p ∧
        2 ≤ gPrime ∧ gPrime ≤ self.parameterSpec.p - 2 := by
  simp only [computeGenerator, Outcome.bind_eq_ok]
  refine exists_congr fun h => and_congr_right fun _ => ?_
  split
  · rename_i hdegenerate
    simp only [reduceCtorEq, false_iff]
    rintro ⟨rfl, hlow, hhigh⟩
    omega
  · rename_i hgood
    rw [Outcome.ok.injEq]
    constructor
    · rintro rfl
      exact ⟨rfl, by omega, by omega⟩
    · rintro ⟨rfl, -, -⟩
      rfl

end DHpkcs3Engine

end Dmrtd
