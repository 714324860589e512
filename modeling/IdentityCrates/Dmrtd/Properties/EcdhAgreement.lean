import IdentityCrates.Dmrtd.Properties.PaceEngineFrame

/-!
# Generic mapping over a curve, key by key over the wire

Two parties draw mapping keys, send each other the public ones, move the generator with the nonce and
the shared point, draw ephemeral keys against the moved generator, send each other the public ones
again, and take the x coordinate of the agreed point for a seed.  A key travels as `04 || X || Y` in a
data object inside dynamic authentication data, and is read back with `parse_step2_or_3_response`,
which cuts the coordinates apart in the middle.

The curve is any group of prime order whose points other than the identity have coordinates of its
width (`CurveGroup`), which covers all six instances of the two macro arms at once.  On the way the
coordinates become numbers and lose their leading zeros; that both paddings restore them is
`PublicKeyPace.padBe_eq_toBE`, and that the wire gives back the key that was sent is
`overWire_of_point`.

A key that is no point of the curve, or whose coordinates are numbers too large for its width, is
turned down wherever it is used, and a session that is fed one keeps its engine.
-/

namespace Dmrtd

open Rust Octets

/-! ## Over the wire -/

namespace PublicKeyPace

/-- Two coordinates of one width are cut apart where they were joined. -/
lemma ecdhFromHex_toBytes {x y len : Nat} (hpos : 0 < len) (hx : x < 256 ^ len)
    (hy : y < 256 ^ len) : ecdhFromHex (ecdh x y len).toBytes = some (.ecdh x y len) := by
  have hbytes : (ecdh x y len).toBytes = toBE len x ++ toBE len y := by
    rw [toBytes, padBe_eq_toBE hx, padBe_eq_toBE hy]
  have hlen : (toBE len x ++ toBE len y).length = 2 * len := by
    rw [List.length_append, length_toBE, length_toBE]
    omega
  have hguard : ¬ ((toBE len x ++ toBE len y).isEmpty = true ∨
      (toBE len x ++ toBE len y).length % 2 ≠ 0) := by
    rw [List.isEmpty_iff_length_eq_zero, hlen]
    omega
  have hhalf : 2 * len / 2 = len := by omega
  have hnew : newEcdhFixed x y len = .ok (.ecdh x y len) :=
    newEcdhFixed_eq_ok.mpr ⟨hx, hy, rfl⟩
  rw [hbytes, ecdhFromHex, if_neg hguard]
  simp only [hlen, hhalf, take_append_of_length (length_toBE len x),
    drop_append_of_length (length_toBE len x), ofBE_toBE, Nat.mod_eq_of_lt hx, Nat.mod_eq_of_lt hy,
    hnew, Outcome.toOption_ok]

end PublicKeyPace

namespace Pace

/-- The tags under which the chip's public keys arrive. -/
def IsKeyResponseTag (tag : Nat) : Prop :=
  tag = mappingDataResponse ∨ tag = ephemeralPublicKeyResponse

/-- Send a public key under `tag` and read it back. -/
def overWire (tag : Nat) (key : PublicKeyPace) : Outcome Step2Or3Error PublicKeyPace := do
  let object ← Tlv.encode tag (publicKeyValue key)
  let data ← Tlv.encode tagDynamicAuthenticationData object
  parseStep2Or3Response data .ecdh

/-- The two layers are opened again. -/
lemma parseDynamicAuthData_encode {ε : Type} {tag : Nat} (htag : Tlv.IsSingleByte tag)
    {value object data : Bytes} (hobject : (Tlv.encode tag value : Outcome ε Bytes) = .ok object)
    (hdata : (Tlv.encode tagDynamicAuthenticationData object : Outcome ε Bytes) = .ok data)
    {admitted : List Nat} (hmem : tag ∈ admitted) (absent : String) :
    parseDynamicAuthData admitted absent data = .ok value := by
  rw [parseDynamicAuthData, Tlv.fromBytes_encode (by decide) hdata, Outcome.mapErr_ok,
    Outcome.ok_bind, if_neg (not_not.mpr rfl), Tlv.fromBytes_encode htag hobject,
    Outcome.mapErr_ok, Outcome.ok_bind, if_neg (not_not.mpr hmem)]

/-- A key with two coordinates of its width arrives as it was sent. -/
lemma overWire_ecdh {tag : Nat} (htag : IsKeyResponseTag tag) {x y len : Nat} (hpos : 0 < len)
    (hmax : len ≤ 0xFFFF) (hx : x < 256 ^ len) (hy : y < 256 ^ len) :
    overWire tag (.ecdh x y len) = .ok (.ecdh x y len) := by
  have hsingle : Tlv.IsSingleByte tag := by
    rcases htag with rfl | rfl <;> decide
  have hmem : tag ∈ [mappingDataResponse, ephemeralPublicKeyResponse] := by
    rcases htag with rfl | rfl <;> decide
  have hlen := length_publicKeyValue_ecdh hx hy
  obtain ⟨object, hobject⟩ : ∃ object, (Tlv.encode tag (publicKeyValue (.ecdh x y len)) :
      Outcome Step2Or3Error Bytes) = .ok object := Tlv.encode_isOk (by omega)
  have hobjectLen := Tlv.length_encode_le hsingle.1 hobject
  obtain ⟨data, hdata⟩ : ∃ data, (Tlv.encode tagDynamicAuthenticationData object :
      Outcome Step2Or3Error Bytes) = .ok data := Tlv.encode_isOk (by omega)
  rw [overWire, hobject, Outcome.ok_bind, hdata, Outcome.ok_bind, parseStep2Or3Response,
    parseDynamicAuthData_encode hsingle hobject hdata hmem, Outcome.mapErr_ok, Outcome.ok_bind,
    publicKeyValue]
  simp only [ne_eq, not_true_eq_false, if_false, PublicKeyPace.ecdhFromHex_toBytes hpos hx hy,
    Outcome.ofOption_some]

end Pace

namespace EcdhEngine

variable {P : Primitives} {c : NamedCurve}

lemma coordLen_range (c : NamedCurve) : 0 < c.coordLen ∧ c.coordLen ≤ 0xFFFF := by
  cases c <;> decide

/-- The key of a point arrives at the other party, which reads it as that point. -/
lemma overWire_of_point {point : (P.curve c).Point} (h : point ≠ 0) :
    ∃ key, pointToPubkeyPace point = .ok key ∧
      (∀ tag, Pace.IsKeyResponseTag tag → Pace.overWire tag key = .ok key) ∧
      transformPublic P c key = .ok point := by
  obtain ⟨hx, hy⟩ := (P.curve c).coords_lt point h
  rw [P.curve_coordLen c] at hx hy
  obtain ⟨hpos, hmax⟩ := coordLen_range c
  refine ⟨_, pointToPubkeyPace_of_ne_zero h, ?_, ?_⟩
  · intro tag htag
    exact Pace.overWire_ecdh htag hpos hmax hx hy
  · exact transformPublic_eq_ok.mpr ⟨c.coordLen, rfl, h⟩

/-! ## One party -/

/-- A party that has drawn the mapping key `sk`. -/
structure HasKey (engine : EcdhEngine P c) (sk : SecretKey P c) : Prop where
  priv : engine.privKey = some sk
  pub : engine.pubKey = some (sk.scalar • (P.curve c).generator)

/-- A party that has drawn the ephemeral key `sk` against `g`. -/
structure HasEphemeral (engine : EcdhEngine P c) (g : (P.curve c).Point) (sk : SecretKey P c) :
    Prop where
  priv : engine.ephemeralPriv = some sk.scalar
  pub : engine.ephemeralPub = some (sk.scalar • g)
  generator : engine.ephemeralGenerator = some g

lemma smul_ne_zero {point : (P.curve c).Point} (h : point ≠ 0) (sk : SecretKey P c) :
    sk.scalar • point ≠ 0 :=
  (P.curve c).nsmul_ne_zero h sk.scalar_pos sk.scalar_lt

/-- The generator that a nonce and two mapping keys move the generator of the curve to. -/
def mappedGenerator (P : Primitives) (c : NamedCurve) (nonce : Bytes) (x y : SecretKey P c) :
    (P.curve c).Point :=
  scalarFromBytes P c nonce • (P.curve c).generator +
    (x.scalar * y.scalar) • (P.curve c).generator

lemma mappedGenerator_comm (nonce : Bytes) (x y : SecretKey P c) :
    mappedGenerator P c nonce x y = mappedGenerator P c nonce y x := by
  rw [mappedGenerator, mappedGenerator, Nat.mul_comm]

/-- With the other's mapping key in hand a party moves the generator and draws its ephemeral key. -/
lemma HasKey.mapAndGenerateEphemeral {engine : EcdhEngine P c} {x y : SecretKey P c}
    (h : engine.HasKey x) {key : PublicKeyPace}
    (hkey : transformPublic P c key = .ok (y.scalar • (P.curve c).generator)) (nonce : Bytes)
    {entropy rest : Entropy} {u : SecretKey P c}
    (hdraw : SecretKey.generate P c entropy = .ok (u, rest)) :
    ∃ engine', engine.mapAndGenerateEphemeral key nonce entropy = .ok (engine', rest) ∧
      engine'.HasEphemeral (mappedGenerator P c nonce x y) u := by
  have hother := smul_ne_zero (P.curve c).generator_ne_zero y
  have hshared : x.scalar • y.scalar • (P.curve c).generator ≠ 0 := smul_ne_zero hother x
  have hpoint : engine.computeSharedPoint (y.scalar • (P.curve c).generator) =
      .ok ((x.scalar * y.scalar) • (P.curve c).generator) := by
    rw [computeSharedPoint, h.priv, Outcome.ofOption_some, Outcome.ok_bind, if_neg hother]
    simp only [if_neg hshared]
    rw [← mul_nsmul', Nat.mul_comm]
  rw [EcdhEngine.mapAndGenerateEphemeral, hkey, Outcome.ok_bind, hpoint, Outcome.ok_bind]
  simp only [hdraw, Outcome.ok_bind]
  exact ⟨_, rfl, rfl, rfl, rfl⟩

/-- With the other's ephemeral key in hand a party derives the x coordinate of the agreed point, at
the width of the curve. -/
lemma HasEphemeral.getEphemeralSharedSeed {engine : EcdhEngine P c} {g : (P.curve c).Point}
    {u v : SecretKey P c} (h : engine.HasEphemeral g u) (hg : g ≠ 0) {key : PublicKeyPace}
    (hkey : transformPublic P c key = .ok (v.scalar • g)) :
    engine.getEphemeralSharedSeed key =
      .ok (toBE c.coordLen ((P.curve c).coords ((u.scalar * v.scalar) • g)).1) := by
  have hother := smul_ne_zero hg v
  have hshared : u.scalar • v.scalar • g ≠ 0 := smul_ne_zero hother u
  have hguard : ¬ ((CurvePoint.toSec1Bytes (P.curve c) (u.scalar • v.scalar • g)).length ≠
      1 + 2 * c.coordLen ∨
      (CurvePoint.toSec1Bytes (P.curve c) (u.scalar • v.scalar • g))[0]? ≠ some 0x04) := by
    rintro (hlen | hhead)
    · exact hlen (length_toSec1Bytes _)
    · exact hhead rfl
  rw [EcdhEngine.getEphemeralSharedSeed, hkey, Outcome.ok_bind, h.priv, Outcome.ofOption_some,
    Outcome.ok_bind, if_neg hother]
  simp only [if_neg hshared, if_neg hguard, (sec1Bytes_split (u.scalar • v.scalar • g)).1]
  rw [← mul_nsmul', Nat.mul_comm]

/-! ## Keys that are no points -/

/-- A key with a coordinate that is too wide for the curve, or with coordinates of no point. -/
inductive NoPoint (P : Primitives) (c : NamedCurve) : PublicKeyPace → Prop
  | tooWide {x y len : Nat} (h : c.coordLen < byteCount x ∨ c.coordLen < byteCount y) :
      NoPoint P c (.ecdh x y len)
  | offCurve {x y len : Nat} (h : (P.curve c).ofCoords x y = none) : NoPoint P c (.ecdh x y len)

/-- A key is read as a point or refused for its encoding. -/
lemma transformPublic_cases (P : Primitives) (c : NamedCurve) (key : PublicKeyPace) :
    (∃ point, transformPublic P c key = .ok point) ∨
      transformPublic P c key = .err .invalidEncoding := by
  cases key with
  | dh pubBytes => exact .inr rfl
  | ecdh x y len =>
    simp only [transformPublic]
    split
    · exact .inr rfl
    · cases CurvePoint.fromSec1Bytes (P.curve c)
        (0x04 :: (toBE c.coordLen x ++ toBE c.coordLen y)) with
      | none => exact .inr rfl
      | some point => exact .inl ⟨point, rfl⟩

lemma NoPoint.transformPublic {key : PublicKeyPace} (h : NoPoint P c key) :
    transformPublic P c key = .err .invalidEncoding := by
  rcases transformPublic_cases P c key with ⟨point, hok⟩ | herr
  · obtain ⟨len, hkey, hpoint⟩ := transformPublic_eq_ok.mp hok
    cases h with
    | tooWide hwide =>
      obtain ⟨hx, hy⟩ := (P.curve c).coords_lt point hpoint
      obtain ⟨rfl, rfl, -⟩ := PublicKeyPace.ecdh.inj hkey
      rw [P.curve_coordLen c, ← byteCount_le_iff] at hx hy
      omega
    | offCurve hnone =>
      obtain ⟨rfl, rfl, -⟩ := PublicKeyPace.ecdh.inj hkey
      have hsome := ((P.curve c).ofCoords_eq_some _ _ point).mpr ⟨hpoint, rfl⟩
      rw [hnone] at hsome
      exact absurd hsome (by simp)
  · exact herr

lemma NoPoint.mapAndGenerateEphemeral {key : PublicKeyPace} (h : NoPoint P c key)
    (engine : EcdhEngine P c) (nonce : Bytes) (entropy : Entropy) :
    engine.mapAndGenerateEphemeral key nonce entropy = .err .invalidEncoding := by
  rw [EcdhEngine.mapAndGenerateEphemeral, h.transformPublic, Outcome.err_bind]

lemma NoPoint.getEphemeralSharedSeed {key : PublicKeyPace} (h : NoPoint P c key)
    (engine : EcdhEngine P c) : engine.getEphemeralSharedSeed key = .err .invalidEncoding := by
  rw [EcdhEngine.getEphemeralSharedSeed, h.transformPublic, Outcome.err_bind]

end EcdhEngine

namespace PaceSession

variable {P : Primitives} {κ : Type} [AccessKey κ]

/-- The session expects a public key of the chip. -/
def AwaitsKey (self : PaceSession P κ) : Prop :=
  (∃ nonce, self.state = .waitingForStep2 nonce) ∨ self.state = .waitingForStep3

end PaceSession

/-! ## The agreement -/

namespace EcdhEngine

/-- The second half of the handshake: both ephemeral keys arrive, and both parties derive the x
coordinate of one point. -/
def AgreeOnSeed {P : Primitives} {c : NamedCurve} (terminal chip : EcdhEngine P c)
    (agreed : (P.curve c).Point) : Prop :=
  ∃ keyT keyC seed, terminal.getPubKeyEphemeral = .ok keyT ∧ chip.getPubKeyEphemeral = .ok keyC ∧
    Pace.overWire Pace.ephemeralPublicKeyResponse keyT = .ok keyT ∧
    Pace.overWire Pace.ephemeralPublicKeyResponse keyC = .ok keyC ∧
    terminal.getEphemeralSharedSeed keyC = .ok seed ∧
    chip.getEphemeralSharedSeed keyT = .ok seed ∧
    seed = toBE c.coordLen ((P.curve c).coords agreed).1 ∧ seed.length = c.coordLen

/-- The handshake of two parties that have drawn the mapping keys `x` and `y`, with a nonce and two
tapes that the ephemeral keys `u` and `v` are drawn from. -/
def Agree {P : Primitives} {c : NamedCurve} (terminal chip : EcdhEngine P c) (x y u v : SecretKey P c)
    (nonce : Bytes) (entropyT entropyC restT restC : Entropy) : Prop :=
  ∃ keyT keyC terminal' chip',
    terminal.getPubKey = .ok keyT ∧ chip.getPubKey = .ok keyC ∧
    Pace.overWire Pace.mappingDataResponse keyT = .ok keyT ∧
    Pace.overWire Pace.mappingDataResponse keyC = .ok keyC ∧
    terminal.mapAndGenerateEphemeral keyC nonce entropyT = .ok (terminal', restT) ∧
    chip.mapAndGenerateEphemeral keyT nonce entropyC = .ok (chip', restC) ∧
    terminal'.ephemeralGenerator = some (mappedGenerator P c nonce x y) ∧
    chip'.ephemeralGenerator = some (mappedGenerator P c nonce x y) ∧
    (mappedGenerator P c nonce x y ≠ 0 →
      AgreeOnSeed terminal' chip' ((u.scalar * v.scalar) • mappedGenerator P c nonce x y))

variable {P : Primitives} {c : NamedCurve}

lemma agreeOnSeed {terminal chip : EcdhEngine P c} {g : (P.curve c).Point} {u v : SecretKey P c}
    (hT : terminal.HasEphemeral g u) (hC : chip.HasEphemeral g v) (hg : g ≠ 0) :
    AgreeOnSeed terminal chip ((u.scalar * v.scalar) • g) := by
  obtain ⟨keyT, hkeyT, hwireT, hreadT⟩ := overWire_of_point (smul_ne_zero hg u)
  obtain ⟨keyC, hkeyC, hwireC, hreadC⟩ := overWire_of_point (smul_ne_zero hg v)
  refine ⟨keyT, keyC, _, ?_, ?_, hwireT _ (.inr rfl), hwireC _ (.inr rfl),
    hT.getEphemeralSharedSeed hg hreadC, ?_, rfl, length_toBE _ _⟩
  · rw [getPubKeyEphemeral, hT.pub]
    exact hkeyT
  · rw [getPubKeyEphemeral, hC.pub]
    exact hkeyC
  · rw [Nat.mul_comm]
    exact hC.getEphemeralSharedSeed hg hreadT

lemma agree {terminal chip : EcdhEngine P c} {x y u v : SecretKey P c} (hT : terminal.HasKey x)
    (hC : chip.HasKey y) (nonce : Bytes) {entropyT entropyC restT restC : Entropy}
    (hu : SecretKey.generate P c entropyT = .ok (u, restT))
    (hv : SecretKey.generate P c entropyC = .ok (v, restC)) :
    Agree terminal chip x y u v nonce entropyT entropyC restT restC := by
  have hgen := (P.curve c).generator_ne_zero
  obtain ⟨keyT, hkeyT, hwireT, hreadT⟩ := overWire_of_point (smul_ne_zero hgen x)
  obtain ⟨keyC, hkeyC, hwireC, hreadC⟩ := overWire_of_point (smul_ne_zero hgen y)
  obtain ⟨terminal', hmapT, hephT⟩ := hT.mapAndGenerateEphemeral hreadC nonce hu
  obtain ⟨chip', hmapC, hephC⟩ := hC.mapAndGenerateEphemeral hreadT nonce hv
  rw [mappedGenerator_comm] at hephC
  refine ⟨keyT, keyC, terminal', chip', ?_, ?_, hwireT _ (.inl rfl), hwireC _ (.inl rfl), hmapT,
    hmapC, hephT.generator, hephC.generator, fun hg => agreeOnSeed hephT hephC hg⟩
  · rw [getPubKey, hT.pub]
    exact hkeyT
  · rw [getPubKey, hC.pub]
    exact hkeyC

/-- What is promised of generic mapping over the curve `c`. -/
structure GenericMapping (P : Primitives) (c : NamedCurve) : Prop where
  agree : ∀ (terminal₀ chip₀ terminal chip : EcdhEngine P c) (entropyT entropyC : Entropy)
    (restT restC : Entropy), terminal₀.generateKeyPair entropyT = .ok (terminal, restT) →
    chip₀.generateKeyPair entropyC = .ok (chip, restC) →
    ∃ x y, terminal.HasKey x ∧ chip.HasKey y ∧
      ∀ (nonce : Bytes) (entropyT' entropyC' restT' restC' : Entropy) (u v : SecretKey P c),
        SecretKey.generate P c entropyT' = .ok (u, restT') →
        SecretKey.generate P c entropyC' = .ok (v, restC') →
        Agree terminal chip x y u v nonce entropyT' entropyC' restT' restC'
  refuse : ∀ (engine : EcdhEngine P c) (key : PublicKeyPace) (nonce : Bytes) (entropy : Entropy),
    NoPoint P c key →
    engine.mapAndGenerateEphemeral key nonce entropy = .err .invalidEncoding ∧
      engine.getEphemeralSharedSeed key = .err .invalidEncoding
  keep : ∀ (κ : Type) [AccessKey κ] (self : PaceSession P κ) (engine : EcdhEngine P c)
    (response body : Bytes) (key : PublicKeyPace), self.engine = .ecdh ⟨c, engine⟩ →
    self.AwaitsKey → ResponseApdu.fromBytes response = .ok ⟨StatusWord.success, some body⟩ →
    Pace.parseStep2Or3Response body self.protocol.tokenAgreementAlgorithm = .ok key →
    NoPoint P c key →
    (PaceSession.feedResponse response self).1 = .err (.ecdh .invalidEncoding) ∧
      (PaceSession.feedResponse response self).2.engine = .ecdh ⟨c, engine⟩

end EcdhEngine

end Dmrtd
