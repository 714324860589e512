import IdentityCrates.Lib.Reader
import IdentityCrates.IncometaxPanQr.Values

/-!
# The binary structures of the PAN Secure QR

`structs.rs`.  The cursor and its big-endian readers first, then one section for each structure the
decoder reads: the key, the metadata byte, the inner block, the blob, the message and the outer
block.  Integers have the widths they have on the wire.
-/

namespace IncometaxPanQr

open Octets Rust

/-! ## The cursor -/

namespace Cursor

/-- `remaining`. -/
def remaining : Proc Cursor PanQrError Nat := do
  let c ← Proc.get
  Proc.lift (checkedSub c.data.length c.pos)

/-- `take`: the next `n` bytes. -/
def take (n : Nat) (field : String) : Proc Cursor PanQrError Bytes := do
  let remaining ← remaining
  if remaining < n then Proc.fail (.unexpectedEof field)
  else do
    let c ← Proc.get
    let bytes ← Proc.lift (slice c.data c.pos (c.pos + n))
    Proc.modify fun c => c.advance n
    return bytes

/-- `u8`. -/
def u8 (field : String) : Proc Cursor PanQrError UInt8 := do
  let b ← take 1 field
  Proc.lift (index b 0)

/-- `u16`. -/
def u16 (field : String) : Proc Cursor PanQrError UInt16 := do
  let b ← take 2 field
  let b0 ← Proc.lift (index b 0)
  let b1 ← Proc.lift (index b 1)
  return UInt16.ofNat (ofBE [b0, b1])

/-- `u32`. -/
def u32 (field : String) : Proc Cursor PanQrError UInt32 := do
  let b ← take 4 field
  let b0 ← Proc.lift (index b 0)
  let b1 ← Proc.lift (index b 1)
  let b2 ← Proc.lift (index b 2)
  let b3 ← Proc.lift (index b 3)
  return UInt32.ofNat (ofBE [b0, b1, b2, b3])

/-- `skip`. -/
def skip (n : Nat) (field : String) : Proc Cursor PanQrError Unit := do
  let _ ← take n field
  return ()

/-- `expect`: the next bytes are `magic`. -/
def expect (magic : Bytes) (field : String) : Proc Cursor PanQrError Unit := do
  let found ← take magic.length field
  if found ≠ magic then Proc.fail (.badMagic field magic found)
  else return ()

/-- `greedy`: all the bytes that are left. -/
def greedy : Proc Cursor PanQrError Bytes := do
  let c ← Proc.get
  let bytes ← Proc.lift (sliceFrom c.data c.pos)
  Proc.set { c with pos := c.data.length }
  return bytes

end Cursor

/-! ## `ECC_KEY_STRUCT` -/

/-- `EccKey`. -/
structure EccKey where
  curveOid : Bytes
  key : Bytes
  deriving DecidableEq, Repr

/-- `EccKey::parse`. -/
def EccKey.parse (data : Bytes) : Outcome PanQrError EccKey :=
  Prod.fst <| (do
    Cursor.expect [0x03, 0x01] "ECC_KEY_STRUCT.reserved"
    Cursor.skip 2 "ECC_KEY_STRUCT.pad0"
    Cursor.expect [0x45, 0x43, 0x43] "ECC_KEY_STRUCT.magic"
    Cursor.skip 5 "ECC_KEY_STRUCT.pad1"
    let curveOidLength ← Cursor.u16 "ECC_KEY_STRUCT.curve_oid_length"
    let curveOid ← Cursor.take curveOidLength.toNat "ECC_KEY_STRUCT.curve_oid"
    let keyLength ← Cursor.u16 "ECC_KEY_STRUCT.key_length"
    let key ← Cursor.take keyLength.toNat "ECC_KEY_STRUCT.key"
    return ⟨curveOid, key⟩ : Proc Cursor PanQrError EccKey) (Cursor.new data)

/-! ## `METADATA_UPPER_STRUCT` -/

/-- `Metadata`. -/
structure Metadata where
  raw : UInt8
  controlType : UInt8
  exceedLengthFlag : Bool
  characterSet : UInt8
  deriving DecidableEq, Repr

/-- `Metadata::from_byte`: each field is big-endian in itself, the byte is read from its least
significant bit on. -/
def Metadata.fromByte (byte : UInt8) : Metadata :=
  let bit (n : UInt8) : UInt8 := (byte >>> n) &&& 1
  { raw := byte
    controlType := (bit 0 <<< 2) ||| (bit 1 <<< 1) ||| bit 2
    exceedLengthFlag := bit 3 != 0
    characterSet := (bit 4 <<< 3) ||| (bit 5 <<< 2) ||| (bit 6 <<< 1) ||| bit 7 }

@[simp] lemma Metadata.fromByte_raw (byte : UInt8) : (Metadata.fromByte byte).raw = byte := rfl

/-! ## `PAN_INNER_BLOCK_STRUCT` -/

/-- `PanInnerBlock`. -/
structure PanInnerBlock where
  metadata : Metadata
  length : UInt16
  data : Bytes
  deriving DecidableEq, Repr

namespace PanInnerBlock

/-- The length field: two bytes if the metadata flag says so, else one. -/
def parseLength (metadata : Metadata) : Proc Cursor PanQrError UInt16 :=
  if metadata.exceedLengthFlag then Cursor.u16 "PAN_INNER_BLOCK_STRUCT.length"
  else do
    let length ← Cursor.u8 "PAN_INNER_BLOCK_STRUCT.length"
    return length.toUInt16

/-- `PanInnerBlock::parse`. -/
def parse : Proc Cursor PanQrError PanInnerBlock := do
  let byte ← Cursor.u8 "PAN_INNER_BLOCK_STRUCT.metadata"
  let metadata := Metadata.fromByte byte
  let length ← parseLength metadata
  let data ← Cursor.take length.toNat "PAN_INNER_BLOCK_STRUCT.data"
  return ⟨metadata, length, data⟩

/-- The length field as `build` writes it. -/
def buildLength (metadata : Metadata) (length : UInt16) : Bytes :=
  if metadata.exceedLengthFlag then toBE 2 length.toNat else [length.toUInt8]

/-- `PanInnerBlock::build`. -/
def build (b : PanInnerBlock) : Bytes :=
  [b.metadata.raw] ++ buildLength b.metadata b.length ++ b.data

end PanInnerBlock

/-! ## `SCBLOB_STRUCT` -/

/-- `ScBlob`. -/
structure ScBlob where
  identifier : UInt16
  data : Bytes
  deriving DecidableEq, Repr

/-- `ScBlob::parse`. -/
def ScBlob.parse (data : Bytes) : Outcome PanQrError ScBlob :=
  Prod.fst <| (do
    let identifier ← Cursor.u16 "SCBLOB_STRUCT.identifier"
    let data ← Cursor.greedy
    return ⟨identifier, data⟩ : Proc Cursor PanQrError ScBlob) (Cursor.new data)

/-! ## `PAN_OUTER_BLOCK_STRUCT_MESSAGE` -/

/-- `PanOuterBlockMessage`. -/
structure PanOuterBlockMessage where
  codeType : UInt8
  reserved0 : UInt8
  reserved1 : UInt32
  reserved2 : UInt8
  reserved3 : UInt16
  numBlocks1 : UInt8
  blocks1 : List PanInnerBlock
  numBlocks2 : UInt8
  blocks2 : List PanInnerBlock
  deriving DecidableEq, Repr

namespace PanOuterBlockMessage

/-- `PanOuterBlockMessage::parse`. -/
def parse : Proc Cursor PanQrError PanOuterBlockMessage := do
  let codeType ← Cursor.u8 "MESSAGE.code_type"
  let reserved0 ← Cursor.u8 "MESSAGE.reserved_0"
  let reserved1 ← Cursor.u32 "MESSAGE.reserved_1"
  let reserved2 ← Cursor.u8 "MESSAGE.reserved_2"
  let reserved3 ← Cursor.u16 "MESSAGE.reserved_3"
  let numBlocks1 ← Cursor.u8 "MESSAGE.num_blocks_1"
  let blocks1 ← readMany PanInnerBlock.parse numBlocks1.toNat
  let numBlocks2 ← Cursor.u8 "MESSAGE.num_blocks_2"
  let blocks2 ← readMany PanInnerBlock.parse numBlocks2.toNat
  return { codeType, reserved0, reserved1, reserved2, reserved3, numBlocks1, blocks1, numBlocks2,
           blocks2 }

/-- `PanOuterBlockMessage::build`. -/
def build (m : PanOuterBlockMessage) : Bytes :=
  [m.codeType] ++ [m.reserved0] ++ toBE 4 m.reserved1.toNat ++ [m.reserved2] ++
    toBE 2 m.reserved3.toNat ++ [m.numBlocks1] ++ m.blocks1.flatMap PanInnerBlock.build ++
    [m.numBlocks2] ++ m.blocks2.flatMap PanInnerBlock.build

end PanOuterBlockMessage

/-! ## `PAN_OUTER_BLOCK_STRUCT` -/

/-- `PanOuterBlock`. -/
structure PanOuterBlock where
  message : PanOuterBlockMessage
  signatureScheme : UInt8
  signatureLength : UInt16
  signatureData : Bytes
  deriving DecidableEq, Repr

namespace PanOuterBlock

/-- `PanOuterBlock::parse` up to the end of the signature. -/
def parseSigned : Proc Cursor PanQrError PanOuterBlock := do
  let message ← PanOuterBlockMessage.parse
  Cursor.expect [0x01] "PAN_OUTER_BLOCK_STRUCT.reserved_4"
  let signatureScheme ← Cursor.u8 "PAN_OUTER_BLOCK_STRUCT.signature_scheme"
  Cursor.skip 2 "PAN_OUTER_BLOCK_STRUCT.pad"
  let signatureLength ← Cursor.u16 "PAN_OUTER_BLOCK_STRUCT.signature_length"
  let signatureData ←
    Cursor.take signatureLength.toNat "PAN_OUTER_BLOCK_STRUCT.signature_data"
  return ⟨message, signatureScheme, signatureLength, signatureData⟩

/-- `PanOuterBlock::parse`: nothing but zero bytes may follow the signature. -/
def parse (data : Bytes) : Outcome PanQrError PanOuterBlock :=
  Prod.fst <| (do
    let outer ← parseSigned
    let trailing ← Cursor.greedy
    if trailing.any (· != 0) then Proc.fail (.trailingData "PAN_OUTER_BLOCK_STRUCT")
    else return outer : Proc Cursor PanQrError PanOuterBlock) (Cursor.new data)

end PanOuterBlock

end IncometaxPanQr
