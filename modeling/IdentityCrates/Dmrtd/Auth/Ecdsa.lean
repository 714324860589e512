import IdentityCrates.Dmrtd.Auth.Rsa

/-!
# ECDSA verification

`ecdsa.rs`: the table of curves that eMRTDs are signed on, in either of the two forms in which a key
names one, and the verification of a signature.  Five of the curves are verified by crates of their
own, which are taken as a parameter; on brainpoolP512r1 `verify_bigint` computes with unbounded
numbers, in Jacobian coordinates.

A point in Jacobian coordinates `(X, Y, Z)` is the affine point `(X / Z ^ 2, Y / Z ^ 3)`, or the point
at infinity where `Z` is zero.
-/

namespace Dmrtd

open Octets ModPow

namespace Ecdsa

/-! ## Curves -/

/-- `OID_PRIME_FIELD`. -/
def oidPrimeField : List Nat := [1, 2, 840, 10045, 1, 1]

/-- `Params`: the numbers of a short-Weierstrass curve `y ^ 2 = x ^ 3 + a x + b` over the field of `p`
elements, with a base point of order `n`. -/
structure Params where
  p : Nat
  a : Nat
  b : Nat
  g : Nat × Nat
  n : Nat
  deriving DecidableEq, Repr

/-- `CURVES`: NIST's and Brainpool's. -/
inductive Curve where
  | p256
  | p384
  | p521
  | brainpoolP256r1
  | brainpoolP384r1
  | brainpoolP512r1
  deriving DecidableEq, Repr

namespace Curve

/-- `CURVES`, in the order they are searched. -/
def curves : List Curve :=
  [p256, p384, p521, brainpoolP256r1, brainpoolP384r1, brainpoolP512r1]

/-- The object identifier of a named curve. -/
def oid : Curve → List Nat
  | p256 => [1, 2, 840, 10045, 3, 1, 7]
  | p384 => [1, 3, 132, 0, 34]
  | p521 => [1, 3, 132, 0, 35]
  | brainpoolP256r1 => [1, 3, 36, 3, 3, 2, 8, 1, 1, 7]
  | brainpoolP384r1 => [1, 3, 36, 3, 3, 2, 8, 1, 1, 11]
  | brainpoolP512r1 => [1, 3, 36, 3, 3, 2, 8, 1, 1, 13]

/-- `params`. -/
def params : Curve → Params
  | p256 => {
      p := 0xFFFFFFFF00000001000000000000000000000000FFFFFFFFFFFFFFFFFFFFFFFF
      a := 0xFFFFFFFF00000001000000000000000000000000FFFFFFFFFFFFFFFFFFFFFFFC
      b := 0x5AC635D8AA3A93E7B3EBBD55769886BC651D06B0CC53B0F63BCE3C3E27D2604B
      g := (
        0x6B17D1F2E12C4247F8BCE6E563A440F277037D812DEB33A0F4A13945D898C296,
        0x4FE342E2FE1A7F9B8EE7EB4A7C0F9E162BCE33576B315ECECBB6406837BF51F5)
      n := 0xFFFFFFFF00000000FFFFFFFFFFFFFFFFBCE6FAADA7179E84F3B9CAC2FC632551 }
  | p384 => {
      p := 0xFFFFFFFFFFFFFFFFFFFFFFFFFFFFFFFFFFFFFFFFFFFFFFFFFFFFFFFFFFFFFFFEFFFFFFFF0000000000000000FFFFFFFF
      a := 0xFFFFFFFFFFFFFFFFFFFFFFFFFFFFFFFFFFFFFFFFFFFFFFFFFFFFFFFFFFFFFFFEFFFFFFFF0000000000000000FFFFFFFC
      b := 0xB3312FA7E23EE7E4988E056BE3F82D19181D9C6EFE8141120314088F5013875AC656398D8A2ED19D2A85C8EDD3EC2AEF
      g := (
        0xAA87CA22BE8B05378EB1C71EF320AD746E1D3B628BA79B9859F741E082542A385502F25DBF55296C3A545E3872760AB7,
        0x3617DE4A96262C6F5D9E98BF9292DC29F8F41DBD289A147CE9DA3113B5F0B8C00A60B1CE1D7E819D7A431D7C90EA0E5F)
      n := 0xFFFFFFFFFFFFFFFFFFFFFFFFFFFFFFFFFFFFFFFFFFFFFFFFC7634D81F4372DDF581A0DB248B0A77AECEC196ACCC52973 }
  | p521 => {
      p := 0x1FFFFFFFFFFFFFFFFFFFFFFFFFFFFFFFFFFFFFFFFFFFFFFFFFFFFFFFFFFFFFFFFFFFFFFFFFFFFFFFFFFFFFFFFFFFFFFFFFFFFFFFFFFFFFFFFFFFFFFFFFFFFFFFFFF
      a := 0x1FFFFFFFFFFFFFFFFFFFFFFFFFFFFFFFFFFFFFFFFFFFFFFFFFFFFFFFFFFFFFFFFFFFFFFFFFFFFFFFFFFFFFFFFFFFFFFFFFFFFFFFFFFFFFFFFFFFFFFFFFFFFFFFFFC
      b := 0x51953EB9618E1C9A1F929A21A0B68540EEA2DA725B99B315F3B8B489918EF109E156193951EC7E937B1652C0BD3BB1BF073573DF883D2C34F1EF451FD46B503F00
      g := (
        0xC6858E06B70404E9CD9E3ECB662395B4429C648139053FB521F828AF606B4D3DBAA14B5E77EFE75928FE1DC127A2FFA8DE3348B3C1856A429BF97E7E31C2E5BD66,
        0x11839296A789A3BC0045C8A5FB42C7D1BD998F54449579B446817AFBD17273E662C97EE72995EF42640C550B9013FAD0761353C7086A272C24088BE94769FD16650)
      n := 0x1FFFFFFFFFFFFFFFFFFFFFFFFFFFFFFFFFFFFFFFFFFFFFFFFFFFFFFFFFFFFFFFFFA51868783BF2F966B7FCC0148F709A5D03BB5C9B8899C47AEBB6FB71E91386409 }
  | brainpoolP256r1 => {
      p := 0xA9FB57DBA1EEA9BC3E660A909D838D726E3BF623D52620282013481D1F6E5377
      a := 0x7D5A0975FC2C3057EEF67530417AFFE7FB8055C126DC5C6CE94A4B44F330B5D9
      b := 0x26DC5C6CE94A4B44F330B5D9BBD77CBF958416295CF7E1CE6BCCDC18FF8C07B6
      g := (
        0x8BD2AEB9CB7E57CB2C4B482FFC81B7AFB9DE27E1E3BD23C23A4453BD9ACE3262,
        0x547EF835C3DAC4FD97F8461A14611DC9C27745132DED8E545C1D54C72F046997)
      n := 0xA9FB57DBA1EEA9BC3E660A909D838D718C397AA3B561A6F7901E0E82974856A7 }
  | brainpoolP384r1 => {
      p := 0x8CB91E82A3386D280F5D6F7E50E641DF152F7109ED5456B412B1DA197FB71123ACD3A729901D1A71874700133107EC53
      a := 0x7BC382C63D8C150C3C72080ACE05AFA0C2BEA28E4FB22787139165EFBA91F90F8AA5814A503AD4EB04A8C7DD22CE2826
      b := 0x4A8C7DD22CE28268B39B55416F0447C2FB77DE107DCD2A62E880EA53EEB62D57CB4390295DBC9943AB78696FA504C11
      g := (
        0x1D1C64F068CF45FFA2A63A81B7C13F6B8847A3E77EF14FE3DB7FCAFE0CBD10E8E826E03436D646AAEF87B2E247D4AF1E,
        0x8ABE1D7520F9C2A45CB1EB8E95CFD55262B70B29FEEC5864E19C054FF99129280E4646217791811142820341263C5315)
      n := 0x8CB91E82A3386D280F5D6F7E50E641DF152F7109ED5456B31F166E6CAC0425A7CF3AB6AF6B7FC3103B883202E9046565 }
  | brainpoolP512r1 => {
      p := 0xAADD9DB8DBE9C48B3FD4E6AE33C9FC07CB308DB3B3C9D20ED6639CCA703308717D4D9B009BC66842AECDA12AE6A380E62881FF2F2D82C68528AA6056583A48F3
      a := 0x7830A3318B603B89E2327145AC234CC594CBDD8D3DF91610A83441CAEA9863BC2DED5D5AA8253AA10A2EF1C98B9AC8B57F1117A72BF2C7B9E7C1AC4D77FC94CA
      b := 0x3DF91610A83441CAEA9863BC2DED5D5AA8253AA10A2EF1C98B9AC8B57F1117A72BF2C7B9E7C1AC4D77FC94CADC083E67984050B75EBAE5DD2809BD638016F723
      g := (
        0x81AEE4BDD82ED9645A21322E9C4C6A9385ED9F70B5D916C1B43B62EEF4D0098EFF3B1F78E2D0D48D50D1687B93B97D5F7C6D5047406A5E688B352209BCB9F822,
        0x7DDE385D566332ECC0EABFA9CF7822FDF209F70024A57B1AA000C55B881F8111B2DCDE494A5F485E5BCA4BD88A2763AED1CA2B2FA8F0540678CD1E0F3AD80892)
      n := 0xAADD9DB8DBE9C48B3FD4E6AE33C9FC07CB308DB3B3C9D20ED6639CCA70330870553E5C414CA92619418661197FAC10471DB1D381085DDADDB58796829CA90069 }

/-- `field_len`: bytes in a field element. -/
def fieldLen (curve : Curve) : Nat := (Nat.size curve.params.p + 7) / 8

/-- `takes_compressed_points`: the verifier over unbounded numbers does not decompress. -/
def takesCompressedPoints (curve : Curve) : Bool := decide (curve ≠ brainpoolP512r1)

end Curve

/-! ## Encodings -/

/-- `decode_point`: an uncompressed SEC1 point that lies on the curve. -/
def decodePoint (curve : Params) (bytes : Bytes) : Option (Nat × Nat) :=
  let len := (Nat.size curve.p + 7) / 8
  if bytes.length ≠ 1 + 2 * len ∨ bytes.head? ≠ some 0x04 then none
  else
    let x := ofBE ((bytes.drop 1).take len)
    let y := ofBE (bytes.drop (1 + len))
    if curve.p ≤ x ∨ curve.p ≤ y then none
    else
      let rhs := (modPow x 3 curve.p + curve.a * x + curve.b) % curve.p
      if modPow y 2 curve.p = rhs then some (x, y) else none

/-- `parse_signature`: the two numbers of an ECDSA-Sig-Value. -/
def parseSignature (signature : Bytes) : Option (Nat × Nat) := do
  let body ← Der.expect signature Der.sequence
  let (r, rest) ← Der.take body Der.integer
  let (s, rest) ← Der.take rest Der.integer
  if rest ≠ [] then none else some (ofBE r, ofBE s)

namespace Curve

/-- `from_explicit`: explicit ECParameters, equal to those of a known curve. -/
def fromExplicit (explicit : Bytes) : Option Curve := do
  let (version, rest) ← Der.take explicit Der.integer
  if version ≠ [1] then none
  else
    let (field, rest) ← Der.take rest Der.sequence
    let (fieldType, fieldRest) ← Der.take field Der.oid
    if Der.oidArcs fieldType ≠ some oidPrimeField then none
    else
      let pBytes ← Der.expect fieldRest Der.integer
      let (curve, rest) ← Der.take rest Der.sequence
      let (a, curveRest) ← Der.take curve Der.octetString
      let (b, _) ← Der.take curveRest Der.octetString
      let (base, rest) ← Der.take rest Der.octetString
      let (n, _) ← Der.take rest Der.integer
      curves.find? fun curve =>
        let known := curve.params
        known.p == ofBE pBytes && known.a == ofBE a && known.b == ofBE b && known.n == ofBE n &&
          decodePoint known base == some known.g

/-- `from_params`: the curve that AlgorithmIdentifier parameters name. -/
def fromParams (params : Bytes) : Option Curve := do
  let e ← Der.next params
  if e.rest ≠ [] then none
  else if e.tag = Der.oid then do
    let arcs ← Der.oidArcs e.contents
    curves.find? fun curve => curve.oid == arcs
  else if e.tag = Der.sequence then fromExplicit e.contents
  else none

end Curve

/-! ## Jacobian coordinates -/

/-- `sub`: subtraction modulo `p`. -/
def sub (a b p : Nat) : Nat := (a + p - b % p) % p

/-- `Jacobian`. -/
structure Jacobian where
  x : Nat
  y : Nat
  z : Nat
  deriving DecidableEq, Repr

namespace Jacobian

/-- `infinity`. -/
def infinity : Jacobian := ⟨1, 1, 0⟩

/-- `from_affine`. -/
def fromAffine (point : Nat × Nat) : Jacobian := ⟨point.1, point.2, 1⟩

/-- `double`. -/
def double (point : Jacobian) (curve : Params) : Jacobian :=
  let p := curve.p
  if point.z = 0 ∨ point.y = 0 then infinity
  else
    let yy := point.y * point.y % p
    let zz := point.z * point.z % p
    let s := 4 * point.x * yy % p
    let m := (3 * point.x * point.x + curve.a * zz % p * zz) % p
    let x3 := sub (m * m % p) (2 * s % p) p
    let y3 := sub (m * sub s x3 p % p) (8 * yy * yy % p) p
    let z3 := 2 * point.y * point.z % p
    ⟨x3, y3, z3⟩

/-- `add`. -/
def add (point other : Jacobian) (curve : Params) : Jacobian :=
  let p := curve.p
  if point.z = 0 then other
  else if other.z = 0 then point
  else
    let z1z1 := point.z * point.z % p
    let z2z2 := other.z * other.z % p
    let u1 := point.x * z2z2 % p
    let u2 := other.x * z1z1 % p
    let s1 := point.y * other.z % p * z2z2 % p
    let s2 := other.y * point.z % p * z1z1 % p
    if u1 = u2 then
      if s1 = s2 then point.double curve else infinity
    else
      let h := sub u2 u1 p
      let r := sub s2 s1 p
      let hh := h * h % p
      let hhh := hh * h % p
      let v := u1 * hh % p
      let x3 := sub (sub (r * r % p) hhh p) (2 * v % p) p
      let y3 := sub (r * sub v x3 p % p) (s1 * hhh % p) p
      let z3 := h * point.z % p * other.z % p
      ⟨x3, y3, z3⟩

/-- `to_affine_x`: the affine coordinate, or nothing at infinity. -/
def toAffineX (point : Jacobian) (curve : Params) : Option Nat :=
  let p := curve.p
  if point.z = 0 then none
  else
    let zz := point.z * point.z % p
    some (point.x * modPow zz (p - 2) p % p)

end Jacobian

/-! ## Verification -/

/-- The loop of `verify_bigint`, over the bits below `bits`, the highest one first. -/
def shamir (curve : Params) (g q sum : Jacobian) (u1 u2 : Nat) : Nat → Jacobian → Jacobian
  | 0, acc => acc
  | bit + 1, acc =>
    let acc := acc.double curve
    let acc :=
      match u1.testBit bit, u2.testBit bit with
      | true, true => acc.add sum curve
      | true, false => acc.add g curve
      | false, true => acc.add q curve
      | false, false => acc
    shamir curve g q sum u1 u2 bit acc

/-- The leftmost bits of the digest, as many as `n` has. -/
def truncate (digest : Bytes) (n : Nat) : Nat :=
  let e := ofBE digest
  let digestBits := digest.length * 8
  let nBits := Nat.size n
  if nBits < digestBits then e >>> (digestBits - nBits) else e

/-- `verify_bigint`: the public point, the digest and the signature. -/
def verifyBigint (curve : Params) (point digest signature : Bytes) : Bool :=
  match decodePoint curve point with
  | none => false
  | some q =>
    match parseSignature signature with
    | none => false
    | some (r, s) =>
      let n := curve.n
      if r = 0 ∨ s = 0 ∨ n ≤ r ∨ n ≤ s then false
      else
        let e := truncate digest n
        let w := modPow s (n - 2) n
        let u1 := e * w % n
        let u2 := r * w % n
        let g := Jacobian.fromAffine curve.g
        let q := Jacobian.fromAffine q
        let sum := g.add q curve
        let acc := shamir curve g q sum u1 u2 (max (Nat.size u1) (Nat.size u2)) .infinity
        match acc.toAffineX curve with
        | some x => decide (x % n = r)
        | none => false

/-- The curve crates, each of which verifies a digest: the public point, the digest and the
signature. -/
structure CurveCrates where
  p256 : Bytes → Bytes → Bytes → Bool
  p384 : Bytes → Bytes → Bytes → Bool
  p521 : Bytes → Bytes → Bytes → Bool
  bp256 : Bytes → Bytes → Bytes → Bool
  bp384 : Bytes → Bytes → Bytes → Bool

/-- `padded`: zeros on the left, up to `len` bytes. -/
def padded (digest : Bytes) (len : Nat) : Bytes :=
  List.replicate (len - digest.length) 0 ++ digest

/-- `verify`: the public point, the hash, the message and the signature. -/
def Curve.verify (C : CurveCrates) (H : Hashes) (curve : Curve) (point : Bytes) (hash : HashAlgo)
    (message signature : Bytes) : Bool :=
  let digest := H.digest hash message
  match curve with
  | .p256 => C.p256 point digest signature
  | .p384 => C.p384 point (padded digest 48) signature
  | .p521 => C.p521 point (padded digest 66) signature
  | .brainpoolP256r1 => C.bp256 point digest signature
  | .brainpoolP384r1 => C.bp384 point digest signature
  | .brainpoolP512r1 => verifyBigint curve.params point digest signature

end Ecdsa

end Dmrtd
