import IdentityCrates.Dmrtd.Lds.PaceInfo

/-!
# EF.CardAccess

`efcard_access.rs`: a SET OF SecurityInfo.  All its elements are read, those that are PACEInfo
records are candidates, and one of them is picked: the first that a session can be run with, else
the first with supported domain parameters, else the first.
-/

namespace Dmrtd

open Rust Octets

/-- `EfCardAccess`. -/
structure EfCardAccess where
  encoded : Bytes
  paceInfo : Option PaceInfo
  deriving DecidableEq, Repr

namespace EfCardAccess

/-- The closure `runnable` of `from_bytes`. -/
def runnable (pi : PaceInfo) : Bool :=
  pi.isPaceDomainParameterSupported && pi.protocol.cipherAlgorithm == .aes &&
    pi.protocol.mappingType == .gm

/-- The position of the candidate that is picked. -/
def pick (candidates : List PaceInfo) : Nat :=
  ((candidates.findIdx? runnable).or
    (candidates.findIdx? fun pi => pi.isPaceDomainParameterSupported)).getD 0

/-- The loop of `from_bytes`, with the candidates and the last error so far. -/
def readInfos (asn1 : Asn1) (parser : Bytes) (candidates : List PaceInfo)
    (lastErr : Option EfParseError) :
    Outcome EfParseError (List PaceInfo × Option EfParseError) :=
  if parser.isEmpty then .ok (candidates, lastErr)
  else
    match _h : asn1.readSequence parser with
    | none =>
      .err ⟨"Invalid structure of EF.CardAccess. Set element is not an ASN1Sequence."⟩
    | some (sequence, rest) =>
      match PaceInfo.fromSequence asn1 sequence with
      | .ok pi => readInfos asn1 rest (candidates ++ [pi]) lastErr
      | .err e => readInfos asn1 rest candidates (some e)
      | .panic => .panic
termination_by parser.length
decreasing_by
  · exact asn1.readSequence_shorter ‹_›
  · exact asn1.readSequence_shorter ‹_›

/-- `from_bytes`. -/
def fromBytes (asn1 : Asn1) (encoded : Bytes) : Outcome EfParseError EfCardAccess := do
  let parser ← Outcome.ofOption ⟨"Invalid structure of EF.CardAccess. No data to parse."⟩
    (asn1.parseSet encoded)
  if parser.isEmpty then
    .err ⟨"Invalid structure of EF.CardAccess. Expected at least one element in set, got none."⟩
  else do
    let (candidates, lastErr) ← readInfos asn1 parser [] none
    if candidates.isEmpty then
      .err (lastErr.getD ⟨"Invalid structure of EF.CardAccess. No PACEInfo found in set."⟩)
    else
      match candidates[pick candidates]? with
      | some paceInfo => .ok ⟨encoded, some paceInfo⟩
      | none => .panic

end EfCardAccess

end Dmrtd
