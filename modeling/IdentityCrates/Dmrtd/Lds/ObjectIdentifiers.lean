import IdentityCrates.Dmrtd.Crypto.Aes
import IdentityCrates.Dmrtd.Proto.Sm

/-!
# PACE protocol identifiers

The types of `asn1_object_identifiers.rs` that a PACE session is configured with, and the registry
that gives an object identifier its meaning.  The fields of `OiePaceProtocol` are public in the
source, so a session may be handed any combination of them.
-/

namespace Dmrtd

open Rust

/-- `TokenAgreementAlgo`. -/
inductive TokenAgreementAlgo where
  | dh
  | ecdh
  deriving DecidableEq, Repr

/-- `MappingType`. -/
inductive MappingType where
  | gm
  | im
  | cam
  deriving DecidableEq, Repr

/-- `Oie`: the dotted form, the readable name and the arcs of an object identifier. -/
structure Oie where
  identifierString : String
  readableName : String
  identifier : List Nat
  deriving DecidableEq, Repr

/-- `OiePaceProtocol`. -/
structure OiePaceProtocol where
  oie : Oie
  cipherAlgorithm : CipherAlgorithm
  keyLength : KeyLength
  tokenAgreementAlgorithm : TokenAgreementAlgo
  mappingType : MappingType
  deriving DecidableEq, Repr

/-! ## The registry -/

/-- `OieException`. -/
structure OieException where
  message : String
  deriving DecidableEq, Repr

/-- `CUSTOM_OIDS`. -/
def customOids : List Oie :=
  [⟨"0.4.0.127.0.7.2.2.4.1.1", "id-PACE-DH-GM-3DES-CBC-CBC", [0, 4, 0, 127, 0, 7, 2, 2, 4, 1, 1]⟩,
    ⟨"0.4.0.127.0.7.2.2.4.1.2", "id-PACE-DH-GM-AES-CBC-CMAC-128",
      [0, 4, 0, 127, 0, 7, 2, 2, 4, 1, 2]⟩,
    ⟨"0.4.0.127.0.7.2.2.4.1.3", "id-PACE-DH-GM-AES-CBC-CMAC-192",
      [0, 4, 0, 127, 0, 7, 2, 2, 4, 1, 3]⟩,
    ⟨"0.4.0.127.0.7.2.2.4.1.4", "id-PACE-DH-GM-AES-CBC-CMAC-256",
      [0, 4, 0, 127, 0, 7, 2, 2, 4, 1, 4]⟩,
    ⟨"0.4.0.127.0.7.2.2.4.3.1", "id-PACE-DH-IM-3DES-CBC-CBC", [0, 4, 0, 127, 0, 7, 2, 2, 4, 3, 1]⟩,
    ⟨"0.4.0.127.0.7.2.2.4.3.2", "id-PACE-DH-IM-AES-CBC-CMAC-128",
      [0, 4, 0, 127, 0, 7, 2, 2, 4, 3, 2]⟩,
    ⟨"0.4.0.127.0.7.2.2.4.3.3", "id-PACE-DH-IM-AES-CBC-CMAC-192",
      [0, 4, 0, 127, 0, 7, 2, 2, 4, 3, 3]⟩,
    ⟨"0.4.0.127.0.7.2.2.4.3.4", "id-PACE-DH-IM-AES-CBC-CMAC-256",
      [0, 4, 0, 127, 0, 7, 2, 2, 4, 3, 4]⟩,
    ⟨"0.4.0.127.0.7.2.2.4.2.1", "id-PACE-ECDH-GM-3DES-CBC-CBC",
      [0, 4, 0, 127, 0, 7, 2, 2, 4, 2, 1]⟩,
    ⟨"0.4.0.127.0.7.2.2.4.2.2", "id-PACE-ECDH-GM-AES-CBC-CMAC-128",
      [0, 4, 0, 127, 0, 7, 2, 2, 4, 2, 2]⟩,
    ⟨"0.4.0.127.0.7.2.2.4.2.3", "id-PACE-ECDH-GM-AES-CBC-CMAC-192",
      [0, 4, 0, 127, 0, 7, 2, 2, 4, 2, 3]⟩,
    ⟨"0.4.0.127.0.7.2.2.4.2.4", "id-PACE-ECDH-GM-AES-CBC-CMAC-256",
      [0, 4, 0, 127, 0, 7, 2, 2, 4, 2, 4]⟩,
    ⟨"0.4.0.127.0.7.2.2.4.4.1", "id-PACE-ECDH-IM-3DES-CBC-CBC",
      [0, 4, 0, 127, 0, 7, 2, 2, 4, 4, 1]⟩,
    ⟨"0.4.0.127.0.7.2.2.4.4.2", "id-PACE-ECDH-IM-AES-CBC-CMAC-128",
      [0, 4, 0, 127, 0, 7, 2, 2, 4, 4, 2]⟩,
    ⟨"0.4.0.127.0.7.2.2.4.4.3", "id-PACE-ECDH-IM-AES-CBC-CMAC-192",
      [0, 4, 0, 127, 0, 7, 2, 2, 4, 4, 3]⟩,
    ⟨"0.4.0.127.0.7.2.2.4.4.4", "id-PACE-ECDH-IM-AES-CBC-CMAC-256",
      [0, 4, 0, 127, 0, 7, 2, 2, 4, 4, 4]⟩]

/-- `get_oid_by_identifier_string`. -/
def getOidByIdentifierString (identifierString : String) : Option Oie :=
  customOids.find? fun o => o.identifierString == identifierString

namespace OiePaceProtocol

/-- `params_from_name`. -/
def paramsFromName (name idStr : String) :
    Outcome OieException (CipherAlgorithm × KeyLength × TokenAgreementAlgo × MappingType) :=
  match name with
  | "ID-PACE-DH-GM-3DES-CBC-CBC" => .ok (.deSede, .s128, .dh, .gm)
  | "ID-PACE-DH-GM-AES-CBC-CMAC-128" => .ok (.aes, .s128, .dh, .gm)
  | "ID-PACE-DH-GM-AES-CBC-CMAC-192" => .ok (.aes, .s192, .dh, .gm)
  | "ID-PACE-DH-GM-AES-CBC-CMAC-256" => .ok (.aes, .s256, .dh, .gm)
  | "ID-PACE-DH-IM-3DES-CBC-CBC" => .ok (.deSede, .s128, .dh, .im)
  | "ID-PACE-DH-IM-AES-CBC-CMAC-128" => .ok (.aes, .s128, .dh, .im)
  | "ID-PACE-DH-IM-AES-CBC-CMAC-192" => .ok (.aes, .s192, .dh, .im)
  | "ID-PACE-DH-IM-AES-CBC-CMAC-256" => .ok (.aes, .s256, .dh, .im)
  | "ID-PACE-ECDH-GM-3DES-CBC-CBC" => .ok (.deSede, .s128, .ecdh, .gm)
  | "ID-PACE-ECDH-GM-AES-CBC-CMAC-128" => .ok (.aes, .s128, .ecdh, .gm)
  | "ID-PACE-ECDH-GM-AES-CBC-CMAC-192" => .ok (.aes, .s192, .ecdh, .gm)
  | "ID-PACE-ECDH-GM-AES-CBC-CMAC-256" => .ok (.aes, .s256, .ecdh, .gm)
  | "ID-PACE-ECDH-IM-3DES-CBC-CBC" => .ok (.deSede, .s128, .ecdh, .im)
  | "ID-PACE-ECDH-IM-AES-CBC-CMAC-128" => .ok (.aes, .s128, .ecdh, .im)
  | "ID-PACE-ECDH-IM-AES-CBC-CMAC-192" => .ok (.aes, .s192, .ecdh, .im)
  | "ID-PACE-ECDH-IM-AES-CBC-CMAC-256" => .ok (.aes, .s256, .ecdh, .im)
  | "ID-PACE-ECDH-CAM-AES-CBC-CMAC-128"
  | "ID-PACE-ECDH-CAM-AES-CBC-CMAC-192"
  | "ID-PACE-ECDH-CAM-AES-CBC-CMAC-256" =>
    .err ⟨s!"OIEPaceProtocol; Mapping type CAM  not supported: {idStr}"⟩
  | _ => .err ⟨s!"OIEPaceProtocol; Unknown identifierString: {idStr}"⟩

/-- `new`.  Names and identifiers are ASCII, so that upper-casing them is what Rust does. -/
def new (identifierString readableName : String) (identifier : List Nat) :
    Outcome OieException OiePaceProtocol := do
  let identifierString := identifierString.toUpper
  let readableName := readableName.toUpper
  let params ← paramsFromName readableName identifierString
  let registered ← Outcome.ofOption
    ⟨s!"OIEPaceProtocol; unknown PACE OID {identifierString} (not in registry)"⟩
    (getOidByIdentifierString identifierString)
  if registered.readableName.toUpper ≠ readableName ∨ registered.identifier ≠ identifier then
    .err ⟨s!"OIEPaceProtocol; inconsistent PACE protocol for OID {identifierString}: " ++
      s!"readable name {readableName} / arc {identifier} does not match the registered entry " ++
      s!"({registered.readableName})"⟩
  else
    .ok ⟨⟨identifierString, readableName, identifier⟩, params.1, params.2.1, params.2.2.1,
      params.2.2.2⟩

/-- `from_oie`. -/
def fromOie (oie : Oie) : Outcome OieException OiePaceProtocol :=
  new oie.identifierString oie.readableName oie.identifier

end OiePaceProtocol

end Dmrtd
