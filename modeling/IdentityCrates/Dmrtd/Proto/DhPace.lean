import IdentityCrates.Dmrtd.Crypto.DiffieHellman
import IdentityCrates.Dmrtd.Proto.DomainParameter
import IdentityCrates.Dmrtd.Proto.PublicKeyPace

/-!
# The DH engine of PACE

`dh_pace.rs`: the three groups of RFC 5114 and the engine that maps the nonce onto a generator.  The
ephemeral engine works in the same group and subgroup as the main one, with the mapped generator in
place of the standard one.
-/

namespace Dmrtd

open Rust Octets

/-- `DHPaceError`. -/
structure DHPaceError where
  message : String
  deriving DecidableEq, Repr

/-- `big_hex` of a number printed in lines of 48 digits, the last one shorter. -/
def bigHex (lines : List Nat) (digits last : Nat) : Nat :=
  lines.foldl (fun n line => n * 16 ^ 48 + line) 0 * 16 ^ digits + last

/-- `RFC5114_1024_160`: 1024-bit MODP with 160-bit prime-order subgroup (id 0). -/
def rfc5114_1024_160 : DhParameterSpec where
  p := bigHex [
      0xB10B8F96A080E01DDE92DE5EAE5D54EC52C99FBCFB06A3C6,
      0x9A6A9DCA52D23B616073E28675A23D189838EF1E2EE652C0,
      0x13ECB4AEA906112324975C3CD49B83BFACCBDD7D90C4BD70,
      0x98488E9C219A73724EFFD6FAE5644738FAA31A4FF55BCCC0,
      0xA151AF5F0DC8B4BD45BF37DF365C1A65E68CFDA76D4DA708] 16
      0xDF1FB2BC2E4A4371
  g := bigHex [
      0xA4D1CBD5C3FD34126765A442EFB99905F8104DD258AC507F,
      0xD6406CFF14266D31266FEA1E5C41564B777E690F5504F213,
      0x160217B4B01B886A5E91547F9E2749F4D7FBD7D3B9A92EE1,
      0x909D0D2263F80A76A6A24C087A091F531DBF0A0169B6A28A,
      0xD662A4D18E73AFA32D779D5918D08BC8858F4DCEF97C2A24] 16
      0x855E6EEB22B3B2E5
  length := 160
  q := some (0xF518AA8781A8DF278ABA4E7D64B7CB9D49462353)

/-- `RFC5114_2048_224`: 2048-bit MODP with 224-bit prime-order subgroup (id 1). -/
def rfc5114_2048_224 : DhParameterSpec where
  p := bigHex [
      0xAD107E1E9123A9D0D660FAA79559C51FA20D64E5683B9FD1,
      0xB54B1597B61D0A75E6FA141DF95A56DBAF9A3C407BA1DF15,
      0xEB3D688A309C180E1DE6B85A1274A0A66D3F8152AD6AC212,
      0x9037C9EDEFDA4DF8D91E8FEF55B7394B7AD5B7D0B6C12207,
      0xC9F98D11ED34DBF6C6BA0B2C8BBC27BE6A00E0A0B9C49708,
      0xB3BF8A317091883681286130BC8985DB1602E714415D9330,
      0x278273C7DE31EFDC7310F7121FD5A07415987D9ADC0A486D,
      0xCDF93ACC44328387315D75E198C641A480CD86A1B9E587E8,
      0xBE60E69CC928B2B9C52172E413042E9B23F10B0E16E79763,
      0xC9B53DCF4BA80A29E3FB73C16B8E75B97EF363E2FFA31F71] 32
      0xCF9DE5384E71B81C0AC4DFFE0C10E64F
  g := bigHex [
      0xAC4032EF4F2D9AE39DF30B5C8FFDAC506CDEBE7B89998CAF,
      0x74866A08CFE4FFE3A6824A4E10B9A6F0DD921F01A70C4AFA,
      0xAB739D7700C29F52C57DB17C620A8652BE5E9001A8D66AD7,
      0xC17669101999024AF4D027275AC1348BB8A762D0521BC98A,
      0xE247150422EA1ED409939D54DA7460CDB5F6C6B250717CBE,
      0xF180EB34118E98D119529A45D6F834566E3025E316A330EF,
      0xBB77A86F0C1AB15B051AE3D428C8F8ACB70A8137150B8EEB,
      0x10E183EDD19963DDD9E263E4770589EF6AA21E7F5F2FF381,
      0xB539CCE3409D13CD566AFBB48D6C019181E1BCFE94B30269,
      0xEDFE72FE9B6AA4BD7B5A0F1C71CFFF4C19C418E1F6EC0179] 32
      0x81BC087F2A7065B384B890D3191F2BFA
  length := 224
  q := some (bigHex [0x801C0D34C58D93FE997177101F80535A4738CEBCBF389A99] 8 0xB36371EB)

/-- `RFC5114_2048_256`: 2048-bit MODP with 256-bit prime-order subgroup (id 2). -/
def rfc5114_2048_256 : DhParameterSpec where
  p := bigHex [
      0x87A8E61DB4B6663CFFBBD19C651959998CEEF608660DD0F2,
      0x5D2CEED4435E3B00E00DF8F1D61957D4FAF7DF4561B2AA30,
      0x16C3D91134096FAA3BF4296D830E9A7C209E0C6497517ABD,
      0x5A8A9D306BCF67ED91F9E6725B4758C022E0B1EF4275BF7B,
      0x6C5BFC11D45F9088B941F54EB1E59BB8BC39A0BF12307F5C,
      0x4FDB70C581B23F76B63ACAE1CAA6B7902D52526735488A0E,
      0xF13C6D9A51BFA4AB3AD8347796524D8EF6A167B5A41825D9,
      0x67E144E5140564251CCACB83E6B486F6B3CA3F7971506026,
      0xC0B857F689962856DED4010ABD0BE621C3A3960A54E710C3,
      0x75F26375D7014103A4B54330C198AF126116D2276E11715F] 32
      0x693877FAD7EF09CADB094AE91E1A1597
  g := bigHex [
      0x3FB32C9B73134D0B2E77506660EDBD484CA7B18F21EF2054,
      0x07F4793A1A0BA12510DBC15077BE463FFF4FED4AAC0BB555,
      0xBE3A6C1B0C6B47B1BC3773BF7E8C6F62901228F8C28CBB18,
      0xA55AE31341000A650196F931C77A57F2DDF463E5E9EC144B,
      0x777DE62AAAB8A8628AC376D282D6ED3864E67982428EBC83,
      0x1D14348F6F2F9193B5045AF2767164E1DFC967C1FB3F2E55,
      0xA4BD1BFFE83B9C80D052B985D182EA0ADB2A3B7313D3FE14,
      0xC8484B1E052588B9B7D2BBD2DF016199ECD06E1557CD0915,
      0xB3353BBB64E0EC377FD028370DF92B52C7891428CDC67EB6,
      0x184B523D1DB246C32F63078490F00EF8D647D148D4795451] 32
      0x5E2327CFEF98C582664B4C0F6CC41659
  length := 256
  q := some (bigHex [0x8CF83642A709A097B447997640129DA299B1A47D1EB3750B] 16 0xA308B0FE64F5FBD3)

/-- `DHPace`. -/
structure DHPace where
  domainSpec : DhParameterSpec
  engine : Option DHpkcs3Engine
  ephemeral : Option DHpkcs3Engine

namespace DHPace

/-- `DHPace::new`: a key pair is generated at once. -/
def new (id : Nat) (spec : DhParameterSpec) (entropy : Entropy) :
    Outcome DHPaceError (DHPace × Entropy) :=
  if (DomainParameter.get id).isNone then
    .err ⟨s!"DHPace; Domain parameter with id {id} does not exist."⟩
  else do
    let engine ← (DHpkcs3Engine.new spec none entropy).mapErr fun e =>
      DHPaceError.mk s!"DH engine: {e.message}"
    return (⟨spec, some engine.1, none⟩, engine.2)

/-- `get_domain_parameter`. -/
def getDomainParameter (id : Nat) (entropy : Entropy) : Outcome DHPaceError (DHPace × Entropy) :=
  match id with
  | 0 => new 0 rfc5114_1024_160 entropy
  | 1 => new 1 rfc5114_2048_224 entropy
  | 2 => new 2 rfc5114_2048_256 entropy
  | _ => .err ⟨s!"Domain parameter with id {id} is not supported."⟩

/-- A new engine holds a key pair of its group and no ephemeral one. -/
lemma new_eq_ok {id : Nat} {spec : DhParameterSpec} {entropy : Entropy} {engine : DHPace × Entropy}
    (h : new id spec entropy = .ok engine) :
    ∃ e, e.parameterSpec = spec ∧ engine.1 = ⟨spec, some e, none⟩ := by
  rw [new] at h
  split at h
  · simp at h
  obtain ⟨⟨e, rest⟩, he, hengine⟩ := Outcome.bind_eq_ok.mp h
  rw [Outcome.pure_eq, Outcome.ok.injEq] at hengine
  exact ⟨e, DHpkcs3Engine.new_eq_ok (Outcome.mapErr_eq_ok.mp he), by rw [← hengine]⟩

/-- The engines are in the three groups of the table. -/
lemma getDomainParameter_eq_ok {id : Nat} {entropy : Entropy} {engine : DHPace × Entropy}
    (h : getDomainParameter id entropy = .ok engine) :
    ∃ spec, (spec = rfc5114_1024_160 ∨ spec = rfc5114_2048_224 ∨ spec = rfc5114_2048_256) ∧
      ∃ e, e.parameterSpec = spec ∧ engine.1 = ⟨spec, some e, none⟩ := by
  unfold getDomainParameter at h
  split at h
  · exact ⟨_, .inl rfl, new_eq_ok h⟩
  · exact ⟨_, .inr (.inl rfl), new_eq_ok h⟩
  · exact ⟨_, .inr (.inr rfl), new_eq_ok h⟩
  · simp at h

variable (self : DHPace)

/-- `public_key`. -/
def publicKey : Outcome DHPaceError Nat :=
  Outcome.ofOption ⟨"Public key is null. Generate key pair first."⟩
    (self.engine.map DHpkcs3Engine.publicKey)

/-- `modulus_byte_len`. -/
def modulusByteLen : Nat := (bitCount self.domainSpec.p + 7) / 8

/-- `ephemeral_public_key`. -/
def ephemeralPublicKey : Outcome DHPaceError Nat :=
  Outcome.ofOption ⟨"Ephemeral public key is null. Generate ephemeral key pair first."⟩
    (self.ephemeral.map DHpkcs3Engine.publicKey)

/-- `generate_key_pair`. -/
def generateKeyPair (entropy : Entropy) : Outcome DHPaceError (DHPace × Entropy) := do
  let engine ← (DHpkcs3Engine.new self.domainSpec none entropy).mapErr fun e =>
    DHPaceError.mk e.message
  return ({ self with engine := some engine.1 }, engine.2)

/-- `generate_ephemeral_with_custom_generator`. -/
def generateEphemeralWithCustomGenerator (ephemeralGenerator : Nat) (entropy : Entropy) :
    Outcome DHPaceError (DHPace × Entropy) := do
  let spec := { self.domainSpec with g := ephemeralGenerator }
  let engine ← (DHpkcs3Engine.new spec none entropy).mapErr fun e => DHPaceError.mk e.message
  return ({ self with ephemeral := some engine.1 }, engine.2)

/-- `get_pub_key`. -/
def getPubKey : Outcome DHPaceError PublicKeyPace := do
  let pk ← self.publicKey
  return .dh (bigUintToBytes pk)

/-- `get_pub_key_ephemeral`. -/
def getPubKeyEphemeral : Outcome DHPaceError PublicKeyPace := do
  let pk ← self.ephemeralPublicKey
  return .dh (bigUintToBytes pk)

/-- `get_ephemeral_shared_secret`. -/
def getEphemeralSharedSecret (otherEphemeralPubKey : Bytes) : Outcome DHPaceError Nat := do
  let engine ← Outcome.ofOption
    (DHPaceError.mk "Ephemeral engine is null. Generate ephemeral key pair first.") self.ephemeral
  (engine.computeSecretKey (ofBE otherEphemeralPubKey)).mapErr fun e => DHPaceError.mk e.message

/-- `get_mapped_generator`. -/
def getMappedGenerator (otherPubKey nonce : Bytes) : Outcome DHPaceError Bytes := do
  let engine ← Outcome.ofOption
    (DHPaceError.mk "Engine is null. Generate key pair first.") self.engine
  let generator ← (engine.computeGenerator (ofBE otherPubKey) (ofBE nonce)).mapErr fun e =>
    DHPaceError.mk e.message
  return bigUintToBytes generator

end DHPace

end Dmrtd
