import Mathlib.Tactic.Common

/-!
# ICAO domain parameters

`domain_parameter.rs`: the table of ICAO 9303-11, Section 9.5.1, and which of its entries the port
supports.
-/

namespace Dmrtd

/-- `DomainParameterType`. -/
inductive DomainParameterType where
  | gfp
  | ecp
  deriving DecidableEq, Repr

/-- `DomainParameter`. -/
structure DomainParameter where
  id : Nat
  name : String
  size : Nat
  kind : DomainParameterType
  isSupported : Bool
  deriving Repr

namespace DomainParameter

/-- `ICAO_DOMAIN_PARAMETERS`. -/
def icaoDomainParameters : List DomainParameter :=
  [⟨0, "1024-bit MODP Group with 160-bit Prime Order Subgroup", 1024, .gfp, true⟩,
    ⟨1, "2048-bit MODP Group with 224-bit Prime Order Subgroup", 2048, .gfp, true⟩,
    ⟨2, "2048-bit MODP Group with 256-bit Prime Order Subgroup", 2048, .gfp, true⟩,
    ⟨8, "NIST P-192 (secp192r1)", 192, .ecp, false⟩,
    ⟨9, "BrainpoolP192r1", 192, .ecp, false⟩,
    ⟨10, "NIST P-224 (secp224r1)", 224, .ecp, true⟩,
    ⟨11, "BrainpoolP224r1", 224, .ecp, false⟩,
    ⟨12, "NIST P-256 (secp256r1)", 256, .ecp, true⟩,
    ⟨13, "BrainpoolP256r1", 256, .ecp, true⟩,
    ⟨14, "BrainpoolP320r1", 320, .ecp, false⟩,
    ⟨15, "NIST P-384 (secp384r1)", 384, .ecp, true⟩,
    ⟨16, "BrainpoolP384r1", 384, .ecp, true⟩,
    ⟨17, "BrainpoolP512r1", 512, .ecp, false⟩,
    ⟨18, "NIST P-521 (secp521r1)", 521, .ecp, true⟩]

/-- `get`. -/
def get (id : Nat) : Option DomainParameter := icaoDomainParameters.find? fun p => p.id == id

end DomainParameter

end Dmrtd
