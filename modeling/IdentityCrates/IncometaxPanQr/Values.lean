import IdentityCrates.Lib.Octets
import IdentityCrates.Lib.Text

/-!
# Errors, enumerations and constants of the PAN Secure QR

`error.rs`, `enums.rs` and `values.rs`: the errors of the decoder, the wire codes it looks up, the
versions it knows and the key that goes with each of them.
-/

namespace IncometaxPanQr

open Octets Text

/-- `PanQrError`, as far as the decoder below the image reader returns it. -/
inductive PanQrError where
  | invalidChunk (chunk : Str)
  | malformedChunk (chunk : Str) (reason : String)
  | invalidBitCount (count : Int)
  | unexpectedEof (field : String)
  | trailingData (field : String)
  | badMagic (field : String) (expected found : Bytes)
  | validationFailed
  | inflate (reason : String)
  | decompressionLimitExceeded (limit : Nat)
  | imageTooSmall (length : Nat)
  | missingPii
  | missingPublicKey
  | keyDecode (reason : String)
  | invalidKey
  | invalidSignature
  deriving DecidableEq, Repr

/-- `SecureCodeType`. -/
inductive SecureCodeType where
  | scTextH1 | scTextH2 | scTextCaption | scTextNormal | scTable | scBlob | scPlaceHolder
  | scIdentifier | scAlign | scNewLine | scBackground | scLine | scHyperLink
  deriving DecidableEq, Repr

/-- `SecureCodeType::from_u8`. -/
def SecureCodeType.fromU8 (value : UInt8) : Option SecureCodeType :=
  match value.toNat with
  | 0 => some .scTextH1
  | 1 => some .scTextH2
  | 2 => some .scTextCaption
  | 3 => some .scTextNormal
  | 4 => some .scTable
  | 5 => some .scBlob
  | 6 => some .scPlaceHolder
  | 7 => some .scIdentifier
  | 8 => some .scAlign
  | 9 => some .scNewLine
  | 10 => some .scBackground
  | 11 => some .scLine
  | 12 => some .scHyperLink
  | _ => none

/-- `SCBlobIdentifier`. -/
inductive SCBlobIdentifier where
  | pii | image | mixed
  deriving DecidableEq, Repr

/-- `SCBlobIdentifier::from_u16`. -/
def SCBlobIdentifier.fromU16 (value : UInt16) : Option SCBlobIdentifier :=
  match value.toNat with
  | 0x0302 => some .pii
  | 0x0102 => some .image
  | 0x0301 => some .mixed
  | _ => none

/-- `WHITELISTED_VERSION_1`. -/
def whitelistedVersion1 : List UInt32 := [0x9990, 0x998F]

/-- `WHITELISTED_VERSION_2`, verified with the first key. -/
def whitelistedVersion2 : List UInt32 := [0x1E, 0x20]

/-- `WHITELISTED_VERSION_3`. -/
def whitelistedVersion3 : List UInt32 := [0x998E, 0x998D]

/-- `WHITELISTED_VERSION_4`, verified with the second key. -/
def whitelistedVersion4 : List UInt32 := [0x1F, 0x21]

/-- `is_whitelisted_version`. -/
def isWhitelistedVersion (reserved1 : UInt32) : Bool :=
  whitelistedVersion1.contains reserved1 || whitelistedVersion2.contains reserved1 ||
    whitelistedVersion3.contains reserved1 || whitelistedVersion4.contains reserved1

/-- `IMAGE_HEADER_RIFF`: `RIFF`. -/
def imageHeaderRiff : Bytes := [0x52, 0x49, 0x46, 0x46]

/-- `IMAGE_HEADER_WEBP`: `WEBP`. -/
def imageHeaderWebp : Bytes := [0x57, 0x45, 0x42, 0x50]

/-- `IMAGE_HEADER_VP8`: `VP8` and a space. -/
def imageHeaderVp8 : Bytes := [0x56, 0x50, 0x38, 0x20]

/-- `ECC_KEY_1`. -/
def eccKey1 : String :=
  "AwEAA0VDQ1UAAAABAAwxLjMuMTMyLjAuMzQAYwRhBI1vbBVnA1KE/T1UpdQYzG6LLot++cuCP5DdEdeKtedw5G8RKAhU" ++
    "0KbNXVUwym8CSwUyzdAPC98DAgvkJGOZA/x+cnJOWhVvYTqJvy+IlcOgjSe9kqs0O7zEBy26UmvlIw=="

/-- `ECC_KEY_2`. -/
def eccKey2 : String :=
  "AwEAA0VDQ1UAAAABAAwxLjMuMTMyLjAuMzQAYwRhBJ+fsFQNaIohp5JnCmGArWA5i25WAKHqFYnOEpRYsVmxK/O2W7iI" ++
    "y2T9x3vkZHaZm661w93VNc/99coCSzL92c1x9y5zxQPJCUztH2kT/EwGphLgvKKe2tK/rKMjNDMpSA=="

end IncometaxPanQr
