import IdentityCrates.Dmrtd.Lds.Ef
import IdentityCrates.Dmrtd.Lds.ObjectIdentifiers
import IdentityCrates.Dmrtd.Proto.DomainParameter

/-!
# PACEInfo

`pace_info.rs`: one record of EF.CardAccess, with the verdict whether the port can evaluate the
domain parameters that it names.
-/

namespace Dmrtd

open Rust Octets

/-- `PACE_VERSION`. -/
def paceVersion : Int := 2

/-- `PaceInfo`. -/
structure PaceInfo where
  protocol : OiePaceProtocol
  version : Int
  parameterId : Option Int
  isPaceDomainParameterSupported : Bool
  deriving DecidableEq, Repr

/-- `u32::try_from` of an `i64`. -/
def u32OfInt (n : Int) : Option Nat := if 0 ≤ n ∧ n < 2 ^ 32 then some n.toNat else none

/-- `check_domain_parameter_supported`. -/
def checkDomainParameterSupported (id : Int) (algo : TokenAgreementAlgo) : Bool :=
  match u32OfInt id with
  | none => false
  | some idU32 =>
    match DomainParameter.get idU32 with
    | none => false
    | some entry =>
      if !entry.isSupported then false
      else
        match algo, entry.kind with
        | .ecdh, .ecp => true
        | .dh, .gfp => true
        | _, _ => false

namespace PaceInfo

/-- The optional `parameterId` at the end of a record. -/
def readParameterId (asn1 : Asn1) (p : Bytes) : Outcome EfParseError (Option Int × Bytes) :=
  if p.isEmpty then .ok (none, p)
  else do
    let (id, p) ← Outcome.ofOption ⟨"Invalid parameterId in PaceInfo. Expected INTEGER."⟩
      (asn1.readInteger p)
    return (some id, p)

/-- `from_sequence`, on the contents of the SEQUENCE. -/
def fromSequence (asn1 : Asn1) (sequence : Bytes) : Outcome EfParseError PaceInfo := do
  let (oid, p) ← Outcome.ofOption
    ⟨"Invalid structure of PaceInfo. Expected OBJECT IDENTIFIER."⟩
    (asn1.readObjectIdentifier sequence)
  let oie ← Outcome.ofOption
    ⟨s!"Invalid protocol in PaceInfo. Protocol is not valid: {dotted oid}"⟩
    (getOidByIdentifierString (dotted oid))
  let protocol ← (OiePaceProtocol.fromOie oie).mapErr fun e =>
    EfParseError.mk s!"Invalid PACE protocol OID: {e.message}"
  let (version, p) ← Outcome.ofOption ⟨"Invalid version in PaceInfo. Expected INTEGER."⟩
    (asn1.readInteger p)
  if version ≠ paceVersion then
    .err ⟨s!"Invalid version in PaceInfo. Version is not equal to {paceVersion}."⟩
  else do
    let (parameterId, p) ← readParameterId asn1 p
    let isSupported := (parameterId.map fun id =>
      checkDomainParameterSupported id protocol.tokenAgreementAlgorithm).getD false
    -- the crate refuses a sequence that has not been read to its end
    if !p.isEmpty then .err ⟨s!"ASN.1 parse error: {asn1.extraData}"⟩
    else .ok ⟨protocol, version, parameterId, isSupported⟩

end PaceInfo

end Dmrtd
