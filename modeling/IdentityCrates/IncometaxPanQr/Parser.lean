import IdentityCrates.Lib.Uppercase
import IdentityCrates.Lib.Utf8
import IdentityCrates.IncometaxPanQr.Structs
import IdentityCrates.IncometaxPanQr.Unpacker

/-!
# The decoder of the PAN Secure QR

`parser.rs`, `image_processor.rs`, `inflater.rs`, `verifier.rs` and the entry points of `lib.rs`.
`Parser::new` reads the outer block and fixes the signature, the message bytes and the key;
`handle_control` walks the blocks for the photo and the personal data; `PanQr::verify` checks the
signature over the re-serialised message.

What the crates below do is a parameter (`Crates`): base64, zlib and ECDSA over P-384.
-/

namespace IncometaxPanQr

open Octets Rust Text

/-- What the decoder uses of other crates. -/
structure Crates where
  /-- `STANDARD.decode` of base64. -/
  decodeBase64 : String → Except String Bytes
  /-- At most so many bytes of a zlib stream, or the decoder's error if it comes first. -/
  zlibTake : Bytes → Nat → Except String Bytes
  /-- A P-384 verifying key. -/
  VerifyingKey : Type
  /-- `VerifyingKey::from_sec1_bytes`. -/
  fromSec1Bytes : Bytes → Option VerifyingKey
  /-- A P-384 signature. -/
  Signature : Type
  /-- `Signature::from_slice`. -/
  signatureFromSlice : Bytes → Option Signature
  /-- `verify`: SHA-384 and ECDSA. -/
  verify : VerifyingKey → Bytes → Signature → Bool

/-! ## The PAN itself -/

/-- The entity codes of `from_entity_code`, as bytes: P C H F A T B L J G. -/
def entityCodes : Bytes := [0x50, 0x43, 0x48, 0x46, 0x41, 0x54, 0x42, 0x4C, 0x4A, 0x47]

/-- `u8::is_ascii_uppercase`. -/
def isAsciiUppercase (b : UInt8) : Bool := 0x41 ≤ b && b ≤ 0x5A

/-- `u8::is_ascii_digit`. -/
def isAsciiDigit (b : UInt8) : Bool := 0x30 ≤ b && b ≤ 0x39

/-- `is_valid_pan`. -/
def isValidPan (b : Bytes) : Bool :=
  b.length = 10 && (b.take 3).all isAsciiUppercase && entityCodes.contains (b.getD 3 0) &&
    isAsciiUppercase (b.getD 4 0) && ((b.drop 5).take 4).all isAsciiDigit &&
    isAsciiUppercase (b.getD 9 0)

/-- `PanType`. -/
inductive PanType where
  | individual
  | company
  | hinduUndividedFamily
  | firm
  | associationOfPersons
  | trust
  | bodyOfIndividuals
  | localAuthority
  | artificialJuridicalPerson
  | governmentAgency
  | invalidFormat
  | unknown
  deriving DecidableEq, Repr

/-- `PanType::from_entity_code`. -/
def PanType.fromEntityCode (code : UInt8) : Option PanType :=
  if code = 0x50 then some .individual
  else if code = 0x43 then some .company
  else if code = 0x48 then some .hinduUndividedFamily
  else if code = 0x46 then some .firm
  else if code = 0x41 then some .associationOfPersons
  else if code = 0x54 then some .trust
  else if code = 0x42 then some .bodyOfIndividuals
  else if code = 0x4C then some .localAuthority
  else if code = 0x4A then some .artificialJuridicalPerson
  else if code = 0x47 then some .governmentAgency
  else none

/-- `PanDetails`. -/
structure PanDetails where
  panNumber : Option Str
  isValid : Bool
  panType : PanType
  deriving DecidableEq, Repr

/-- `check_pan_details`. -/
def checkPanDetails (pan : Str) : PanDetails :=
  let normalized := toUppercaseStr (trim pan)
  if normalized.isEmpty then { panNumber := none, isValid := false, panType := .unknown }
  else
    let validStructure := isValidPan (Utf8.encode normalized)
    { panNumber := some normalized
      isValid := validStructure
      panType :=
        if validStructure then
          (PanType.fromEntityCode ((Utf8.encode normalized).getD 3 0)).getD .invalidFormat
        else .invalidFormat }

/-! ## The photo and the personal data -/

/-- `MIN_IMAGE_HEADER_LEN`. -/
def minImageHeaderLen : Nat := 16

/-- `ImageProcessor::fix_header`, with `retrieve_length`. -/
def fixHeader (imageBytes : Bytes) : Outcome PanQrError Bytes :=
  if imageBytes.length < minImageHeaderLen then .err (.imageTooSmall imageBytes.length)
  else do
    let tail ← sliceFrom imageBytes minImageHeaderLen
    let length := if 6 ≤ imageBytes.length then (imageBytes.drop 2).take 4 else []
    return imageHeaderRiff ++ length ++ imageHeaderWebp ++ imageHeaderVp8 ++ tail

/-- `MAX_DECOMPRESSED_SIZE`. -/
def maxDecompressedSize : Nat := 32 * 1024 * 1024

/-- `inflate_capped`. -/
def inflateCapped (crates : Crates) (compressed : Bytes) (limit : Nat) :
    Outcome PanQrError Bytes :=
  match crates.zlibTake compressed (limit + 1) with
  | .error e => .err (.inflate e)
  | .ok out => if out.length > limit then .err (.decompressionLimitExceeded limit) else .ok out

/-- `inflate`. -/
def inflate (crates : Crates) (compressed : Bytes) : Outcome PanQrError Bytes :=
  inflateCapped crates compressed maxDecompressedSize

/-- `PanPii`. -/
inductive PanPii where
  | individual (pan : Str) (panValid : Bool) (name fatherName dob : Str)
  | organization (pan : Str) (panValid : Bool) (name dateOfIncorporation : Str)
  deriving DecidableEq, Repr

/-- Does an element start at `i`? -/
def isMarker (data : Bytes) (i : Nat) : Outcome PanQrError Bool := do
  let b0 ← index data i
  if b0 = 0x08 then do
    let b1 ← index data (i + 1)
    return b1 = 0x02
  else return false

/-- The scan of `handle_pii` from position `i`, with the payloads found so far. -/
def scanPayloads (data : Bytes) (i : Nat) (payloads : List Bytes) :
    Outcome PanQrError (List Bytes) :=
  if _h : i + 2 < data.length then do
    let marker ← isMarker data i
    if marker then do
      let b2 ← index data (i + 2)
      let start := i + 3
      let stop := start + b2.toNat
      if stop > data.length then .err (.unexpectedEof "PII element")
      else do
        let payload ← slice data start stop
        scanPayloads data stop (payloads ++ [payload])
    else scanPayloads data (i + 1) payloads
  else .ok payloads
termination_by data.length - i
decreasing_by all_goals omega

/-- The record that so many payloads make: four or more are an individual's, three an
organization's. -/
def piiOfPayloads : List Bytes → Outcome PanQrError PanPii
  | pan :: name :: fatherName :: dob :: _ =>
    .ok (.individual (Utf8.lossy pan) (checkPanDetails (Utf8.lossy pan)).isValid (Utf8.lossy name)
      (Utf8.lossy fatherName) (Utf8.lossy dob))
  | [pan, name, dateOfIncorporation] =>
    .ok (.organization (Utf8.lossy pan) (checkPanDetails (Utf8.lossy pan)).isValid
      (Utf8.lossy name) (Utf8.lossy dateOfIncorporation))
  | _ => .err .missingPii

/-! ## The parser -/

/-- `Parser`. -/
structure Parser where
  panOuter : PanOuterBlock
  signature : Bytes
  message : Bytes
  publicKey : Option String
  image : Option Bytes
  pii : Option PanPii
  deriving DecidableEq, Repr

namespace Parser

/-- `set_key`. -/
def setKey (reserved1 : UInt32) : Option String :=
  if whitelistedVersion2.contains reserved1 then some eccKey1
  else if whitelistedVersion4.contains reserved1 then some eccKey2
  else none

/-- `Parser::new`. -/
def new (input : Bytes) : Outcome PanQrError Parser := do
  let panOuter ← PanOuterBlock.parse input
  return { panOuter
           signature := panOuter.signatureData
           message := panOuter.message.build
           publicKey := setKey panOuter.message.reserved1
           image := none
           pii := none }

/-- `validate`. -/
def validate (p : Parser) : Bool :=
  if !isWhitelistedVersion p.panOuter.message.reserved1 then false
  else if p.panOuter.message.reserved3.toNat > 6 then false
  else true

/-- `handle_pii`. -/
def handlePii (data : Bytes) : Proc Parser PanQrError Unit := do
  let payloads ← Proc.lift (scanPayloads data 0 [])
  let pii ← Proc.lift (piiOfPayloads payloads)
  Proc.modify fun p => { p with pii := some pii }

variable (crates : Crates)

/-- `handle_blob`. -/
def handleBlob (blob : Bytes) : Proc Parser PanQrError Unit := do
  let parsed ← Proc.lift (ScBlob.parse blob)
  match SCBlobIdentifier.fromU16 parsed.identifier with
  | some .image => do
    let image ← Proc.lift (fixHeader parsed.data)
    Proc.modify fun p => { p with image := some image }
  | some .pii => do
    let inflated ← Proc.lift (inflate crates parsed.data)
    handlePii inflated
  | some .mixed => return ()
  | none => return ()

/-- `dispatch_block`. -/
def dispatchBlock (block : PanInnerBlock) : Proc Parser PanQrError Unit :=
  if SecureCodeType.fromU8 block.metadata.controlType = some .scBlob then
    handleBlob crates block.data
  else return ()

/-- One of the two loops of `handle_control`. -/
def dispatchBlocks : List PanInnerBlock → Proc Parser PanQrError Unit
  | [] => return ()
  | block :: rest => do
    dispatchBlock crates block
    dispatchBlocks rest

/-- `handle_control`. -/
def handleControl : Proc Parser PanQrError Unit := do
  let p ← Proc.get
  dispatchBlocks crates p.panOuter.message.blocks1
  let p ← Proc.get
  dispatchBlocks crates p.panOuter.message.blocks2

end Parser

/-! ## The entry points -/

/-- `Verifier`. -/
structure Verifier (crates : Crates) where
  verifyingKey : crates.VerifyingKey

namespace Verifier

/-- The decoded key, with the error of `decode` wrapped. -/
def decodeKey (crates : Crates) (keyB64 : String) : Outcome PanQrError Bytes :=
  match crates.decodeBase64 keyB64 with
  | .ok decoded => .ok decoded
  | .error e => .err (.keyDecode e)

/-- `Verifier::new`. -/
def new (crates : Crates) (keyB64 : String) : Outcome PanQrError (Verifier crates) := do
  let decoded ← decodeKey crates keyB64
  let key ← EccKey.parse decoded
  let point ← Outcome.ofOption .invalidKey
    (if 2 ≤ key.key.length then some (key.key.drop 2) else none)
  let verifyingKey ← Outcome.ofOption .invalidKey (crates.fromSec1Bytes point)
  return ⟨verifyingKey⟩

/-- `Verifier::verify`. -/
def verify {crates : Crates} (v : Verifier crates) (message signature : Bytes) :
    Outcome PanQrError Bool := do
  let signature ← Outcome.ofOption .invalidSignature (crates.signatureFromSlice signature)
  return crates.verify v.verifyingKey message signature

end Verifier

/-- `PanQr`. -/
structure PanQr where
  parser : Parser
  deriving DecidableEq, Repr

namespace PanQr

variable (crates : Crates)

/-- `PanQr::from_scanned_string`. -/
def fromScannedString (scanned : Str) : Outcome PanQrError PanQr := do
  let unpacked ← unpackScannedString scanned
  let parser ← Parser.new unpacked
  if !parser.validate then .err .validationFailed
  else
    match Parser.handleControl crates parser with
    | (.ok (), parser) => .ok ⟨parser⟩
    | (.err e, _) => .err e
    | (.panic, _) => .panic

/-- `PanQr::verify`. -/
def verify (q : PanQr) : Outcome PanQrError Bool := do
  let key ← Outcome.ofOption .missingPublicKey q.parser.publicKey
  let verifier ← Verifier.new crates key
  verifier.verify q.parser.message q.parser.signature

end PanQr

end IncometaxPanQr
