import IdentityCrates.Dmrtd.Crypto.AaPubkey
import IdentityCrates.Dmrtd.Lds.Ef
import IdentityCrates.Dmrtd.Lds.MrzFormats

/-!
# Files of the eMRTD application

The files under `df1/` that a passport read takes apart or passes on: EF.DG1 with the machine
readable zone, EF.DG15 with the Active Authentication key, and EF.SOD, whose bytes are only kept.
Each remembers the bytes it was parsed from (`to_bytes`).
-/

namespace Dmrtd

open Rust Octets

/-- The `Display` text of an `EfParseError`. -/
def EfParseError.text (e : EfParseError) : String := s!"EfParseError: {e.message}"

/-- `parse_dg_content`: the value of a data group, which is a single TLV with the expected tag. -/
def parseDgContent (content : Bytes) (expectedTag : Nat) : Outcome EfParseError Bytes := do
  let tlv ← (Tlv.decode content).mapErr fun e => EfParseError.mk s!"Invalid DG wrapper: {e.text}"
  if tlv.tag.value ≠ expectedTag then
    .err ⟨s!"Invalid tag={upperHex 1 tlv.tag.value}, expected tag={upperHex 1 expectedTag}"⟩
  else if tlv.encodedLen ≠ content.length then
    .err ⟨s!"Trailing bytes after DG TLV: {content.length - tlv.encodedLen} extra byte(s)"⟩
  else .ok tlv.value

lemma parseDgContent_ne_panic (content : Bytes) (expectedTag : Nat) :
    parseDgContent content expectedTag ≠ .panic := by
  unfold parseDgContent
  refine Outcome.bind_ne_panic (Tlv.decode_mapErr_ne_panic _ _) fun tlv _ => ?_
  split
  · simp
  · split <;> simp

/-! ## EF.DG1 -/

/-- `EfDG1`. -/
structure EfDG1 where
  encoded : Bytes
  mrz : Mrz

/-- `EF_DG1_TAG`. -/
def efDg1Tag : Nat := 0x61

/-- `MRZ_TLV_TAG`. -/
def mrzTlvTag : Nat := 0x5F1F

/-- `EfDG1::from_bytes`, on the day `reference`. -/
def EfDG1.fromBytes (reference : NaiveDate) (encoded : Bytes) : Outcome EfParseError EfDG1 := do
  let inner ← parseDgContent encoded efDg1Tag
  let mrzTlv ← (Tlv.decode inner).mapErr fun e =>
    EfParseError.mk s!"Invalid inner TLV in EF.DG1: {e.text}"
  if mrzTlv.tag.value ≠ mrzTlvTag then
    .err ⟨s!"Invalid data object tag={upperHex 1 mrzTlv.tag.value}, expected object with tag=5F1F"⟩
  else if mrzTlv.encodedLen ≠ inner.length then
    .err ⟨"Trailing bytes after EF.DG1 inner TLV: " ++
      s!"{inner.length - mrzTlv.encodedLen} extra byte(s)"⟩
  else do
    let mrz ← (Mrz.fromBytes reference mrzTlv.value).mapErr fun e =>
      EfParseError.mk s!"Invalid MRZ in EF.DG1: {e.message}"
    return { encoded, mrz }

/-! ## EF.DG15 -/

/-- `EfDG15`. -/
structure EfDG15 where
  encoded : Bytes
  pubKey : AAPublicKey
  deriving DecidableEq, Repr

/-- `EF_DG15_TAG`. -/
def efDg15Tag : Nat := 0x6F

/-- `EfDG15::from_bytes`. -/
def EfDG15.fromBytes (encoded : Bytes) : Outcome EfParseError EfDG15 := do
  let inner ← parseDgContent encoded efDg15Tag
  let pubKey ← (AAPublicKey.fromBytes inner).mapErr fun e =>
    EfParseError.mk s!"Failed to parse AAPublicKey from EF.DG15: {e.text}"
  return { encoded, pubKey }

/-! ## EF.SOD -/

/-- `EfSOD`. -/
structure EfSOD where
  encoded : Bytes
  deriving DecidableEq, Repr

/-- `EfSOD::from_bytes`, which does not look at the bytes. -/
def EfSOD.fromBytes (encoded : Bytes) : Outcome EfParseError EfSOD := .ok ⟨encoded⟩

end Dmrtd
