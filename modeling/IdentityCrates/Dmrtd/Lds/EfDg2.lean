import IdentityCrates.Dmrtd.Lds.Df1
import IdentityCrates.Dmrtd.Lds.TlvSlices

/-!
# EF.DG2

`efdg2.rs`: the encoded face.  The file wraps a Biometric Information Group Template, of which only
the first Biometric Information Template is looked at; behind its header stands an ISO 19794-5
facial record, and the image is what remains of that record after its fixed fields.

Reading a field outside the record would panic, and so would a slice; `extract` and the slices say
so.
-/

namespace Dmrtd

open Rust Octets

namespace EfDG2

/-- `EF_DG2_TAG`. -/
def efDg2Tag : Nat := 0x75

/-- `BIOMETRIC_INFORMATION_GROUP_TEMPLATE_TAG`. -/
def biometricInformationGroupTemplateTag : Nat := 0x7F61

/-- `BIOMETRIC_INFORMATION_TEMPLATE_TAG`. -/
def biometricInformationTemplateTag : Nat := 0x7F60

/-- `BIOMETRIC_HEADER_TEMPLATE_BASE_TAG`. -/
def biometricHeaderTemplateBaseTag : Nat := 0xA1

/-- `BIOMETRIC_DATA_BLOCK_TAG`. -/
def biometricDataBlockTag : Nat := 0x5F2E

/-- `BIOMETRIC_DATA_BLOCK_CONSTRUCTED_TAG`. -/
def biometricDataBlockConstructedTag : Nat := 0x7F2E

/-- `BIOMETRIC_INFORMATION_COUNT_TAG`. -/
def biometricInformationCountTag : Nat := 0x02

/-- `SMT_TAG`. -/
def smtTag : Nat := 0x7D

/-- `VERSION_NUMBER`. -/
def expectedVersionNumber : Int := 0x30313000

/-- `FACIAL_RECORD_BLOCK_START`. -/
def facialRecordBlockStart : Nat := 14

end EfDG2

/-- `EfDG2`. -/
structure EfDG2 where
  encoded : Bytes
  versionNumber : Int
  lengthOfRecord : Int
  numberOfFacialImages : Int
  facialRecordDataLength : Int
  nrFeaturePoints : Int
  gender : Int
  eyeColor : Int
  hairColor : Int
  featureMask : Int
  expression : Int
  poseAngle : Int
  poseAngleUncertainty : Int
  faceImageType : Int
  imageWidth : Int
  imageHeight : Int
  imageColorSpace : Int
  sourceType : Int
  deviceType : Int
  quality : Int
  imageDataType : Option Int
  imageData : Option Bytes
  deriving DecidableEq, Repr

namespace EfDG2

/-- The value that `..Self::default()` fills in, with the bytes of the file. -/
def ofEncoded (encoded : Bytes) : EfDG2 where
  encoded
  versionNumber := 0
  lengthOfRecord := 0
  numberOfFacialImages := 0
  facialRecordDataLength := 0
  nrFeaturePoints := 0
  gender := 0
  eyeColor := 0
  hairColor := 0
  featureMask := 0
  expression := 0
  poseAngle := 0
  poseAngleUncertainty := 0
  faceImageType := 0
  imageWidth := 0
  imageHeight := 0
  imageColorSpace := 0
  sourceType := 0
  deviceType := 0
  quality := 0
  imageDataType := none
  imageData := none

/-! ## The facial record -/

/-- A number of `size` bytes as `extract` reads it: signed for one, two and four bytes, unsigned for
three. -/
def signedOf (size n : Nat) : Int :=
  if size = 3 then n
  else if n < 2 ^ (8 * size - 1) then n
  else (n : Int) - 2 ^ (8 * size)

/-- `extract`: the big-endian number in `data[start..fin]`, for one to four bytes. -/
def extract (data : Bytes) (start fin : Nat) : Outcome EfParseError Int :=
  let size := fin - start
  if size = 0 ∨ 4 < size then .ok 0
  else if data.length < fin then .panic
  else .ok (signedOf size (ofBE ((data.drop start).take size)))

/-- The end of the image: that of the facial record where its length is valid and in range, else
that of the block. -/
def imageEnd (facialRecordDataLength : Int) (offset len : Nat) : Nat :=
  if facialRecordDataLength > 0 then
    let fin := facialRecordBlockStart + facialRecordDataLength.toNat
    if offset ≤ fin ∧ fin ≤ len then fin else len
  else len

/-- The last step of `read_biometric_data_block`: the image behind `offset`. -/
def readImage (self : EfDG2) (data : Bytes) (facialRecordDataLength : Int) (offset : Nat) :
    Outcome EfParseError (Option Bytes) :=
  if offset ≤ data.length then do
    let image ← slice data offset (imageEnd facialRecordDataLength offset data.length)
    return some image
  else .ok self.imageData

/-- `read_biometric_data_block`, of the first element. -/
def readBiometricDataBlock (self : EfDG2) (elements : List DecodedTv) :
    Outcome EfParseError EfDG2 := do
  let first ← Outcome.ofOption ⟨"DG2 BDB: no elements"⟩ elements.head?
  if first.tag.value ≠ biometricDataBlockTag ∧
      first.tag.value ≠ biometricDataBlockConstructedTag then
    .err ⟨s!"Invalid object tag={upperHex 1 first.tag.value}, " ++
      s!"expected {upperHex 1 biometricDataBlockTag} or " ++
      s!"{upperHex 1 biometricDataBlockConstructedTag}"⟩
  else
    let data := first.value
    if data.length < 34 ∨ data.take 4 ≠ [0x46, 0x41, 0x43, 0x00] then
      .err ⟨"Biometric data block is invalid"⟩
    else do
      let version ← extract data 4 8
      if version ≠ expectedVersionNumber then .err ⟨"Version of Biometric data is not valid"⟩
      else do
        let lengthOfRecord ← extract data 8 12
        let numberOfFacialImages ← extract data 12 14
        let facialRecordDataLength ← extract data 14 18
        let nrFeaturePoints ← extract data 18 20
        let gender ← extract data 20 21
        let eyeColor ← extract data 21 22
        let hairColor ← extract data 22 23
        let featureMask ← extract data 23 26
        let expression ← extract data 26 28
        let poseAngle ← extract data 28 31
        let poseAngleUncertainty ← extract data 31 34
        if nrFeaturePoints < 0 then
          .err ⟨"Negative number of feature points in biometric data block"⟩
        else
          -- eight bytes per feature point are skipped
          let offset := 34 + nrFeaturePoints.toNat * 8
          if data.length < offset + 12 then .err ⟨"Truncated biometric data block"⟩
          else do
            let faceImageType ← extract data offset (offset + 1)
            let imageDataType ← extract data (offset + 1) (offset + 2)
            let imageWidth ← extract data (offset + 2) (offset + 4)
            let imageHeight ← extract data (offset + 4) (offset + 6)
            let imageColorSpace ← extract data (offset + 6) (offset + 7)
            let sourceType ← extract data (offset + 7) (offset + 8)
            let deviceType ← extract data (offset + 8) (offset + 10)
            let quality ← extract data (offset + 10) (offset + 12)
            let offset := offset + 12
            let imageData ← self.readImage data facialRecordDataLength offset
            return {
              self with
              versionNumber := version, lengthOfRecord, numberOfFacialImages
              facialRecordDataLength, nrFeaturePoints, gender, eyeColor, hairColor, featureMask
              expression, poseAngle, poseAngleUncertainty, faceImageType
              imageDataType := some imageDataType, imageWidth, imageHeight, imageColorSpace
              sourceType, deviceType, quality, imageData }

/-! ## The templates around it -/

/-- The loop of `read_bht`: the objects from `offset` on. -/
def readElements (stream : Bytes) (offset : Nat) (out : List DecodedTv) :
    Outcome EfParseError (List DecodedTv) :=
  if offset < stream.length then
    match (sliceFrom stream offset : Outcome EfParseError Bytes) with
    | .ok rest =>
      match _h : Tlv.decode rest with
      | .ok tlv => readElements stream (offset + tlv.encodedLen) (out ++ [tlv])
      | .err e => .err ⟨s!"Invalid DG2 BDB element TLV: {e.text}"⟩
      | .panic => .panic
    | .err e => .err e
    | .panic => .panic
  else .ok out
termination_by stream.length - offset
decreasing_by
  have := (Tlv.decode_local ‹_› []).1
  omega

/-- What the loop of `read_bht` does with an object. -/
def absorb (out : List DecodedTv) (tlv : DecodedTv) : Outcome EfParseError (List DecodedTv) :=
  .ok (out ++ [tlv])

/-- Bytes that do not decode are an error. -/
def refuse (_ : List DecodedTv) (e : TlvError) : Outcome EfParseError (List DecodedTv) :=
  .err ⟨s!"Invalid DG2 BDB element TLV: {e.text}"⟩

/-- A turn of the loop, at an offset and with the objects decoded so far. -/
def readBhtTurn (stream : Bytes) :
    Nat × List DecodedTv → Outcome EfParseError (Turn (Nat × List DecodedTv) (List DecodedTv)) :=
  Tlv.format.walkTurn absorb refuse stream

lemma walk_eq_readElements (stream : Bytes) (offset : Nat) (out : List DecodedTv) :
    Tlv.format.walk absorb refuse stream offset out = readElements stream offset out := by
  fun_induction readElements stream offset out with
  | case1 offset out hlt rest hrest tlv htlv ih =>
    rw [sliceFrom_eq hlt.le] at hrest
    obtain rfl := Outcome.ok.inj hrest
    rw [RecordFormat.walk_of_ok ((Tlv.Checked.decode_eq _).trans htlv)]
    exact ih
  | case2 offset out hlt rest hrest e he =>
    rw [sliceFrom_eq hlt.le] at hrest
    obtain rfl := Outcome.ok.inj hrest
    exact RecordFormat.walk_of_err hlt ((Tlv.Checked.decode_eq _).trans he)
  | case3 offset out hlt rest hrest hpanic => exact absurd hpanic (Tlv.decode_ne_panic _)
  | case4 offset out hlt e he =>
    rw [sliceFrom_eq hlt.le] at he
    cases he
  | case5 offset out hlt hpanic =>
    rw [sliceFrom_eq hlt.le] at hpanic
    cases hpanic
  | case6 offset out hle => exact RecordFormat.walk_of_le (not_lt.mp hle)

/-- `read_bht`. -/
def readBht (stream : Bytes) : Outcome EfParseError (List DecodedTv) := do
  let bht ← (Tlv.decode stream).mapErr fun e =>
    EfParseError.mk s!"Invalid DG2 BHT header: {e.text}"
  if bht.tag.value ≠ biometricHeaderTemplateBaseTag then
    .err ⟨s!"Invalid object tag={upperHex 1 bht.tag.value}, " ++
      s!"expected tag={upperHex 1 biometricHeaderTemplateBaseTag}"⟩
  else readElements stream bht.encodedLen []

/-- `read_bit`.  A template under secure messaging is passed over. -/
def readBit (self : EfDG2) (stream : Bytes) : Outcome EfParseError EfDG2 := do
  let tvl ← (Tlv.decode stream).mapErr fun e => EfParseError.mk s!"Invalid DG2 BIT TLV: {e.text}"
  if tvl.tag.value ≠ biometricInformationTemplateTag then
    .err ⟨s!"Invalid object tag={upperHex 1 tvl.tag.value}, " ++
      s!"expected tag={upperHex 1 biometricInformationTemplateTag}"⟩
  else do
    let bht ← (Tlv.decode tvl.value).mapErr fun e =>
      EfParseError.mk s!"Invalid DG2 BHT TLV: {e.text}"
    if bht.tag.value = smtTag then .ok self
    else if bht.tag.value &&& 0xA0 = 0xA0 then do
      let elements ← readBht tvl.value
      self.readBiometricDataBlock elements
    else .err ⟨s!"Unrecognized DG2 BHT tag={upperHex 1 bht.tag.value}"⟩

/-- `from_bytes`. -/
def fromBytes (encoded : Bytes) : Outcome EfParseError EfDG2 := do
  let body ← parseDgContent encoded efDg2Tag
  let bigt ← (Tlv.decode body).mapErr fun e =>
    EfParseError.mk s!"Invalid DG2 BIGT TLV: {e.text}"
  if bigt.tag.value ≠ biometricInformationGroupTemplateTag then
    .err ⟨s!"Invalid object tag={upperHex 1 bigt.tag.value}, " ++
      s!"expected tag={upperHex 1 biometricInformationGroupTemplateTag}"⟩
  else do
    let bict ← (Tlv.decode bigt.value).mapErr fun e =>
      EfParseError.mk s!"Invalid DG2 BICT TLV: {e.text}"
    if bict.tag.value ≠ biometricInformationCountTag then
      .err ⟨s!"Invalid object tag={upperHex 1 bict.tag.value}, " ++
        s!"expected tag={upperHex 1 biometricInformationCountTag}"⟩
    else
      match bict.value with
      | [] => .err ⟨"DG2 BICT value is empty"⟩
      | bitCount :: _ =>
        let out := ofEncoded encoded
        if bitCount > 0 then do
          let bits ← sliceFrom bigt.value bict.encodedLen
          out.readBit bits
        else .ok out

end EfDG2

end Dmrtd
