import IdentityCrates.Dmrtd.Lds.EfDg2

/-!
# The image of EF.DG2

Where the image of a facial record begins depends on the number of feature points in front of it,
and where it ends on a length that the record declares and that need not fit the bytes that are
there.  `FacialRecord` is a record as ISO 19794-5 lays it out, with a declared length that is any
number; `Wrapped` says that a file holds a block in the templates that the parser walks through.

The parser returns what follows the fixed parts, cut where the declared length says, if it says so
within the block (`imageOf`), and all of it otherwise.  A record that declares its own length gives
its image, whatever is appended to it (`imageOf_declared`).

The fields are read at fixed places and the templates with running offsets.  Each place is covered
by a check of a length before it, so nothing is read out of range on any bytes
(`fromBytes_ne_panic`).
-/

namespace Dmrtd

open Rust Octets

/-! ## Data objects -/

namespace Tlv

/-- The bytes start with a data object of that tag and value, and `rest` is what follows it. -/
def StartsWith (tag : Nat) (value rest bytes : Bytes) : Prop :=
  ∃ tv, decode bytes = .ok tv ∧ tv.tag.value = tag ∧ tv.value = value ∧
    rest = bytes.drop tv.encodedLen

/-- The bytes are data objects one after the other. -/
inductive Objects : Bytes → Prop
  | nil : Objects []
  | cons {tag : Nat} {value rest bytes : Bytes} (h : StartsWith tag value rest bytes)
      (hrest : Objects rest) : Objects bytes

lemma startsWith_encode {tag : Nat} {value out : Bytes} (htag : IsTag tag)
    (h : (encode tag value : Outcome Empty Bytes) = .ok out) (rest : Bytes) :
    StartsWith tag value rest (out ++ rest) :=
  ⟨_, decode_encode_of_isTag htag h rest, rfl, rfl, (List.drop_left ..).symm⟩

/-- An object of a length that fits three octets, in eight bytes more than its value at most. -/
lemma exists_startsWith (tag : Nat) (value : Bytes) (htag : IsTag tag)
    (h : value.length ≤ 0xFFFFFF) :
    ∃ out, out.length ≤ value.length + 8 ∧ ∀ rest, StartsWith tag value rest (out ++ rest) := by
  obtain ⟨l, hl⟩ := encodeLength_isOk h
  have hencode : (encode tag value : Outcome Empty Bytes) = .ok (encodeTag tag ++ l ++ value) :=
    encode_eq_ok.mpr ⟨l, hl, rfl⟩
  refine ⟨_, ?_, startsWith_encode htag hencode⟩
  have htagLength := length_encodeTag_le htag
  have hlength := (length_encodeLength_le hl).2
  simp only [List.length_append]
  omega

lemma StartsWith.length_lt {tag : Nat} {value rest bytes : Bytes}
    (h : StartsWith tag value rest bytes) : value.length < 2 ^ 24 := by
  obtain ⟨tv, hdecode, -, rfl, -⟩ := h
  obtain ⟨tl, htl, -, rfl⟩ := decode_eq_ok.mp hdecode
  have hlt := (decodeTagAndLength_bounds htl).2
  show ((bytes.take (tl.encodedLen + tl.length.value)).drop tl.encodedLen).length < 2 ^ 24
  rw [List.length_drop, List.length_take]
  omega

end Tlv

namespace EfDG2

open Tlv

/-! ## Facial records -/

/-- A facial record, with the length that it declares. -/
structure FacialRecord where
  /-- The length of the whole record and the number of images. -/
  counts : Bytes
  counts_length : counts.length = 6
  declared : Nat
  declared_lt : declared < 2 ^ 32
  /-- From the gender to the uncertainty of the pose angle. -/
  appearance : Bytes
  appearance_length : appearance.length = 14
  points : List Bytes
  point_length : ∀ point ∈ points, point.length = 8
  points_le : points.length ≤ 32767
  /-- From the type of the image to its quality. -/
  imageInfo : Bytes
  imageInfo_length : imageInfo.length = 12
  image : Bytes

namespace FacialRecord

/-- `FAC` and a zero byte. -/
def magic : Bytes := [0x46, 0x41, 0x43, 0x00]

/-- `010` and a zero byte. -/
def version : Bytes := [0x30, 0x31, 0x30, 0x00]

variable (record : FacialRecord)

/-- The bytes of a record. -/
def encode : Bytes :=
  magic ++ (version ++ (record.counts ++ (toBE 4 record.declared ++
    (toBE 2 record.points.length ++ (record.appearance ++ (record.points.flatten ++
      (record.imageInfo ++ record.image)))))))

/-- The length that the record should declare: everything behind the first fourteen bytes. -/
def dataLength : Nat := 32 + 8 * record.points.length + record.image.length

/-- The image in a block of the record and something behind it: bounded by the declared length where
that is a positive number and ends in the block, behind the fixed parts. -/
def imageOf (trailing : Bytes) : Bytes :=
  if 0 < record.declared ∧ record.declared < 2 ^ 31 ∧
      32 + 8 * record.points.length ≤ record.declared ∧
      record.declared ≤ record.dataLength + trailing.length then
    (record.image ++ trailing).take (record.declared - (32 + 8 * record.points.length))
  else record.image ++ trailing

end FacialRecord

/-- The file holds the block in the templates: a group of templates with a count that is not zero,
of which the first template has a header and then the block. -/
def Wrapped (encoded block : Bytes) : Prop :=
  ∃ body group outside count more bits template others header elements tag further,
    StartsWith efDg2Tag body [] encoded ∧
    StartsWith biometricInformationGroupTemplateTag group outside body ∧
    StartsWith biometricInformationCountTag (count :: more) bits group ∧ 0 < count ∧
    StartsWith biometricInformationTemplateTag template others bits ∧
    StartsWith biometricHeaderTemplateBaseTag header elements template ∧
    (tag = biometricDataBlockTag ∨ tag = biometricDataBlockConstructedTag) ∧
    StartsWith tag block further elements ∧ Objects further

/-- Every block that leaves room for the objects around it stands in some file. -/
lemma exists_wrapped (block : Bytes) (h : block.length ≤ 0xFFFF00) :
    ∃ encoded, Wrapped encoded block := by
  obtain ⟨header, hheaderLength, hheader⟩ := exists_startsWith
    biometricHeaderTemplateBaseTag [] (by decide) (by decide)
  obtain ⟨bdb, hbdbLength, hbdb⟩ := exists_startsWith biometricDataBlockTag block
    (by decide) (by omega)
  simp only [List.length_nil] at hheaderLength
  obtain ⟨bit, hbitLength, hbit⟩ := exists_startsWith biometricInformationTemplateTag
    (header ++ bdb) (by decide) (by rw [List.length_append]; omega)
  rw [List.length_append] at hbitLength
  obtain ⟨bict, hbictLength, hbict⟩ := exists_startsWith biometricInformationCountTag [1]
    (by decide) (by decide)
  simp only [List.length_singleton] at hbictLength
  obtain ⟨bigt, hbigtLength, hbigt⟩ := exists_startsWith
    biometricInformationGroupTemplateTag (bict ++ bit) (by decide)
    (by rw [List.length_append]; omega)
  rw [List.length_append] at hbigtLength
  obtain ⟨file, -, hfile⟩ := exists_startsWith efDg2Tag bigt (by decide) (by omega)
  have hbdbLast := hbdb []
  have hbitLast := hbit []
  have hbigtLast := hbigt []
  have hfileLast := hfile []
  rw [List.append_nil] at hbdbLast hbitLast hbigtLast hfileLast
  exact ⟨file, bigt, _, _, _, _, _, _, _, _, _, _, _, hfileLast, hbigtLast, hbict bit, by decide,
    hbitLast, hheader bdb, Or.inl rfl, hbdbLast, Objects.nil⟩

/-! ## Reading out of range -/

lemma extract_ne_panic {data : Bytes} {start fin : Nat} (h : fin ≤ data.length) :
    extract data start fin ≠ .panic := by
  unfold extract
  dsimp only
  split
  · simp
  · rw [if_neg (by omega)]
    simp

/-- The image ends behind its beginning and within the block. -/
lemma imageEnd_bounds (length : Int) {offset len : Nat} (h : offset ≤ len) :
    offset ≤ imageEnd length offset len ∧ imageEnd length offset len ≤ len := by
  unfold imageEnd
  split
  · dsimp only
    split
    · rename_i hrange
      exact hrange
    · exact ⟨h, le_rfl⟩
  · exact ⟨h, le_rfl⟩

lemma readImage_ne_panic (self : EfDG2) (data : Bytes) (length : Int) (offset : Nat) :
    self.readImage data length offset ≠ .panic := by
  unfold readImage
  split
  · rename_i hoffset
    obtain ⟨hbegin, hend⟩ := imageEnd_bounds length hoffset
    rw [slice_eq hbegin hend, Outcome.ok_bind]
    simp
  · simp

lemma readBiometricDataBlock_ne_panic (self : EfDG2) (elements : List DecodedTv) :
    self.readBiometricDataBlock elements ≠ .panic := by
  unfold readBiometricDataBlock
  refine Outcome.bind_ne_panic (Outcome.ofOption_ne_panic _ _) fun first _ => ?_
  split
  · simp
  dsimp only
  split
  · simp
  rename_i hheader
  have hlen : 34 ≤ first.value.length := by
    by_contra hshort
    exact hheader (Or.inl (by omega))
  refine Outcome.bind_ne_panic (extract_ne_panic (by omega)) fun version _ => ?_
  split
  · simp
  -- the eleven numbers of the facial record header
  iterate 11 refine Outcome.bind_ne_panic (extract_ne_panic (by omega)) fun _ _ => ?_
  split
  · simp
  split
  · simp
  -- the eight numbers of the image
  iterate 8 refine Outcome.bind_ne_panic (extract_ne_panic (by omega)) fun _ _ => ?_
  exact Outcome.bind_ne_panic (readImage_ne_panic _ _ _ _) fun _ _ => by simp

lemma readElements_ne_panic (stream : Bytes) (offset : Nat) (out : List DecodedTv) :
    readElements stream offset out ≠ .panic := by
  rw [← walk_eq_readElements]
  exact RecordFormat.walk_ne_panic (fun _ _ => by simp [absorb]) (fun _ _ => by simp [refuse])
    stream offset out

lemma readBht_ne_panic (stream : Bytes) : readBht stream ≠ .panic := by
  unfold readBht
  refine Outcome.bind_ne_panic (decode_mapErr_ne_panic _ _) fun bht _ => ?_
  split
  · simp
  · exact readElements_ne_panic _ _ _

lemma readBit_ne_panic (self : EfDG2) (stream : Bytes) : self.readBit stream ≠ .panic := by
  unfold readBit
  refine Outcome.bind_ne_panic (decode_mapErr_ne_panic _ _) fun tvl _ => ?_
  split
  · simp
  refine Outcome.bind_ne_panic (decode_mapErr_ne_panic _ _) fun bht _ => ?_
  split
  · simp
  split
  · exact Outcome.bind_ne_panic (readBht_ne_panic _) fun elements _ =>
      readBiometricDataBlock_ne_panic _ _
  · simp

/-- No bytes make the parser read out of range. -/
lemma fromBytes_ne_panic (encoded : Bytes) : fromBytes encoded ≠ .panic := by
  unfold fromBytes
  refine Outcome.bind_ne_panic (parseDgContent_ne_panic _ _) fun body _ => ?_
  refine Outcome.bind_ne_panic (decode_mapErr_ne_panic _ _) fun bigt _ => ?_
  split
  · simp
  refine Outcome.bind_ne_panic (decode_mapErr_ne_panic _ _) fun bict hbict => ?_
  split
  · simp
  have hinside := (decode_local (Outcome.mapErr_eq_ok.mp hbict) []).2.1
  split
  · simp
  dsimp only
  split
  · rw [sliceFrom_eq hinside, Outcome.ok_bind]
    exact readBit_ne_panic _ _
  · simp

/-! ## The fields of a record -/

/-- The bytes of a part that stands in the block, as a number. -/
lemma extract_of_stands {part data : Bytes} {start : Nat} (fin : Nat) (h : Stands part data start)
    (hfin : fin = start + part.length) (hpos : 0 < part.length) (hle : part.length ≤ 4) :
    extract data start fin = .ok (signedOf part.length (ofBE part)) := by
  have hbound := h.length_le
  have hcut := h.slice_eq (ε := EfParseError) rfl
  rw [Rust.slice_eq (Nat.le_add_right _ _) hbound, Nat.add_sub_cancel_left] at hcut
  unfold extract
  rw [hfin, Nat.add_sub_cancel_left]
  dsimp only
  rw [if_neg (by omega), if_neg (by omega), Outcome.ok.inj hcut]

/-- A field whose value does not matter: the rest of the parse sees some number. -/
lemma exists_extract_bind {β : Type} {P : β → Prop} {data : Bytes} {start fin : Nat}
    {f : Int → Outcome EfParseError β} (h : fin ≤ data.length)
    (hf : ∀ v, ∃ r, f v = .ok r ∧ P r) : ∃ r, (extract data start fin >>= f) = .ok r ∧ P r := by
  unfold extract
  dsimp only
  split
  · exact hf 0
  · rw [if_neg (by omega)]
    exact hf _

namespace FacialRecord

variable (record : FacialRecord)

lemma length_points {points : List Bytes} (h : ∀ point ∈ points, point.length = 8) :
    points.flatten.length = 8 * points.length := by
  induction points with
  | nil => rfl
  | cons point points ih =>
    rw [List.flatten_cons, List.length_append, List.length_cons, h point List.mem_cons_self,
      ih fun other hother => h other (List.mem_cons_of_mem _ hother)]
    ring

lemma length_encode : record.encode.length = facialRecordBlockStart + record.dataLength := by
  simp only [encode, List.length_append, magic, version, record.counts_length,
    record.appearance_length, record.imageInfo_length, length_points record.point_length,
    Octets.length_toBE, List.length_cons, List.length_nil, dataLength, facialRecordBlockStart]
  omega

/-- Where the fields that the image depends on stand. -/
lemma stands_encode (trailing : Bytes) :
    Stands magic (record.encode ++ trailing) 0 ∧ Stands version (record.encode ++ trailing) 4 ∧
      Stands (toBE 4 record.declared) (record.encode ++ trailing) 14 ∧
      Stands (toBE 2 record.points.length) (record.encode ++ trailing) 18 ∧
      Stands record.image (record.encode ++ trailing) (46 + 8 * record.points.length) := by
  have hwhole : Stands record.encode (record.encode ++ trailing) 0 := Stands.front _ _
  have hversion := hwhole.right
  have hcounts := hversion.right
  have hdeclared := hcounts.right
  have hpoints := hdeclared.right
  have himage := hpoints.right.right.right.right
  simp only [magic, version, List.length_cons, List.length_nil, record.counts_length,
    record.appearance_length, record.imageInfo_length, length_points record.point_length,
    Octets.length_toBE, Nat.zero_add, Nat.reduceAdd] at hversion hdeclared hpoints himage
  refine ⟨hwhole.left, hversion.left, hdeclared.left, hpoints.left, ?_⟩
  rwa [show 46 + 8 * record.points.length = 20 + 14 + 8 * record.points.length + 12 by omega]

/-- Behind the fixed parts there is the image, and then what was appended. -/
lemma drop_encode (trailing : Bytes) :
    (record.encode ++ trailing).drop (46 + 8 * record.points.length) = record.image ++ trailing := by
  obtain ⟨-, -, -, -, before, after, hbefore, hwhole⟩ := record.stands_encode trailing
  have hlen := congrArg List.length hwhole
  rw [List.length_append, List.length_append, List.length_append, length_encode, hbefore,
    dataLength, facialRecordBlockStart] at hlen
  have hafter : trailing = after := by
    have hdrop := congrArg (List.drop record.encode.length) hwhole
    rwa [List.drop_left, List.drop_left' (by
      rw [List.length_append, hbefore, length_encode, dataLength, facialRecordBlockStart]
      omega)] at hdrop
  rw [hwhole, List.append_assoc, List.drop_left' hbefore, hafter]

/-- The end that the parser works out from the declared length, which it reads as a signed
number. -/
lemma imageEnd_declared (trailing : Bytes) :
    imageEnd (signedOf 4 record.declared) (46 + 8 * record.points.length)
        (record.encode ++ trailing).length =
      if 0 < record.declared ∧ record.declared < 2 ^ 31 ∧
          32 + 8 * record.points.length ≤ record.declared ∧
          record.declared ≤ record.dataLength + trailing.length then
        facialRecordBlockStart + record.declared
      else (record.encode ++ trailing).length := by
  have hlt := record.declared_lt
  rw [List.length_append, length_encode]
  unfold imageEnd signedOf
  by_cases hsign : record.declared < 2 ^ 31
  · simp only [hsign, facialRecordBlockStart]
    split_ifs <;> grind
  · simp only [hsign, facialRecordBlockStart]
    split_ifs <;> grind

lemma readImage_encode (self : EfDG2) (trailing : Bytes) :
    self.readImage (record.encode ++ trailing) (signedOf 4 record.declared)
      (46 + 8 * record.points.length) = .ok (some (record.imageOf trailing)) := by
  have hlen : (record.encode ++ trailing).length =
      46 + 8 * record.points.length + (record.image ++ trailing).length := by
    rw [List.length_append, List.length_append, length_encode, dataLength, facialRecordBlockStart]
    omega
  obtain ⟨hbegin, hend⟩ := imageEnd_bounds (signedOf 4 record.declared)
    (show 46 + 8 * record.points.length ≤ (record.encode ++ trailing).length by omega)
  unfold readImage
  rw [if_pos (by omega), Rust.slice_eq hbegin hend, drop_encode, imageEnd_declared, imageOf,
    Outcome.ok_bind]
  split
  · rw [show facialRecordBlockStart + record.declared - (46 + 8 * record.points.length) =
      record.declared - (32 + 8 * record.points.length) by unfold facialRecordBlockStart; omega]
    rfl
  · rw [hlen, Nat.add_sub_cancel_left, List.take_length]
    rfl

/-- A record that declares its own length gives its image, whatever is behind it. -/
lemma imageOf_declared {trailing : Bytes} (h : record.declared = record.dataLength)
    (hsmall : record.dataLength < 2 ^ 31) : record.imageOf trailing = record.image := by
  have hfixed : record.dataLength - (32 + 8 * record.points.length) = record.image.length :=
    Nat.add_sub_cancel_left ..
  rw [imageOf, h, if_pos ⟨by unfold dataLength; omega, hsmall, by unfold dataLength; omega,
    Nat.le_add_right _ _⟩, hfixed, List.take_left]

/-- A length that is too small cuts the image where it says. -/
lemma imageOf_under {trailing : Bytes} (hfixed : 32 + 8 * record.points.length ≤ record.declared)
    (h : record.declared ≤ record.dataLength) (hsmall : record.dataLength < 2 ^ 31) :
    record.imageOf trailing =
      record.image.take (record.declared - (32 + 8 * record.points.length)) := by
  rw [imageOf, if_pos ⟨by omega, by omega, hfixed, by omega⟩, List.take_append_of_le_length]
  unfold dataLength at h
  omega

/-- A length that is too large does not truncate the image. -/
lemma imageOf_over {trailing : Bytes} (h : record.dataLength ≤ record.declared) :
    record.image <+: record.imageOf trailing := by
  unfold imageOf
  split
  · rw [List.take_append]
    refine ⟨_, congrArg (· ++ _) (List.take_of_length_le ?_).symm⟩
    unfold dataLength at h
    omega
  · exact List.prefix_append _ _

end FacialRecord

/-- The block of a record is read, and its image is where the fields say. -/
lemma readBiometricDataBlock_record (self : EfDG2) (record : FacialRecord) (trailing : Bytes)
    {first : DecodedTv} (more : List DecodedTv) (hvalue : first.value = record.encode ++ trailing)
    (htag : first.tag.value = biometricDataBlockTag ∨
      first.tag.value = biometricDataBlockConstructedTag) :
    ∃ dg2, self.readBiometricDataBlock (first :: more) = .ok dg2 ∧
      dg2.imageData = some (record.imageOf trailing) := by
  obtain ⟨hmagic, hversion, hdeclared, hpoints, himage⟩ := record.stands_encode trailing
  have hlen := himage.length_le
  have hversionValue := extract_of_stands 8 hversion rfl (by decide) (by decide)
  have hdeclaredValue := extract_of_stands 18 hdeclared (by rw [length_toBE])
    (by rw [length_toBE]; omega) (by rw [length_toBE])
  have hpointsValue := extract_of_stands 20 hpoints (by rw [length_toBE])
    (by rw [length_toBE]; omega) (by rw [length_toBE]; omega)
  rw [length_toBE, ofBE_toBE, Nat.mod_eq_of_lt (lt_of_lt_of_eq record.declared_lt (by norm_num))]
    at hdeclaredValue
  rw [length_toBE, ofBE_toBE, Nat.mod_eq_of_lt (lt_of_le_of_lt record.points_le (by decide)),
    show signedOf 2 record.points.length = (record.points.length : Int) from
      (if_neg (by decide)).trans (if_pos (lt_of_le_of_lt record.points_le (by decide)))]
    at hpointsValue
  have hfront : (record.encode ++ trailing).take 4 = [0x46, 0x41, 0x43, 0x00] := rfl
  unfold readBiometricDataBlock
  rw [List.head?_cons, Outcome.ofOption_some, Outcome.ok_bind,
    if_neg (by rintro ⟨hprimitive, hconstructed⟩; exact htag.elim hprimitive hconstructed)]
  dsimp only
  rw [hvalue, if_neg (by rintro (hshort | hother); exacts [by omega, hother hfront]),
    hversionValue, Outcome.ok_bind, if_neg (by decide)]
  refine exists_extract_bind (by omega) fun lengthOfRecord => ?_
  refine exists_extract_bind (by omega) fun numberOfFacialImages => ?_
  rw [hdeclaredValue, Outcome.ok_bind, hpointsValue, Outcome.ok_bind]
  -- from the gender to the uncertainty of the pose angle
  iterate 7 refine exists_extract_bind (by omega) fun _ => ?_
  rw [if_neg (by omega), Int.toNat_natCast, Nat.mul_comm record.points.length 8,
    if_neg (by omega)]
  -- from the type of the image to its quality
  iterate 8 refine exists_extract_bind (by omega) fun _ => ?_
  rw [show 34 + 8 * record.points.length + 12 = 46 + 8 * record.points.length by omega,
    record.readImage_encode, Outcome.ok_bind]
  exact ⟨_, rfl, rfl⟩

/-! ## The templates around it -/

lemma readElements_step {stream : Bytes} {offset : Nat} {tv : DecodedTv}
    (htv : decode (stream.drop offset) = .ok tv) (out : List DecodedTv) :
    readElements stream offset out = readElements stream (offset + tv.encodedLen) (out ++ [tv]) := by
  rw [← walk_eq_readElements, RecordFormat.walk_of_ok ((Checked.decode_eq _).trans htv)]
  exact walk_eq_readElements stream (offset + tv.encodedLen) (out ++ [tv])

lemma readElements_objects {rest : Bytes} (hrest : Objects rest) {stream : Bytes} {offset : Nat}
    (out : List DecodedTv) (hdrop : stream.drop offset = rest) :
    ∃ more, readElements stream offset out = .ok (out ++ more) := by
  induction hrest generalizing offset out with
  | nil =>
    have hend := List.drop_eq_nil_iff.mp hdrop
    refine ⟨[], ?_⟩
    rw [readElements, if_neg (by omega), List.append_nil]
  | cons h _ ih =>
    obtain ⟨tv, htv, -, -, hnext⟩ := h
    rw [← hdrop] at htv hnext
    have hbehind : stream.drop (offset + tv.encodedLen) = _ :=
      (List.drop_drop ..).symm.trans hnext.symm
    obtain ⟨more, hmore⟩ := ih (out ++ [tv]) hbehind
    exact ⟨tv :: more, by
      rw [readElements_step htv, hmore, List.append_assoc]
      rfl⟩

/-- A file that holds the block of a record is read. -/
lemma fromBytes_record {record : FacialRecord} {trailing encoded : Bytes}
    (h : Wrapped encoded (record.encode ++ trailing)) :
    ∃ dg2, fromBytes encoded = .ok dg2 ∧ dg2.imageData = some (record.imageOf trailing) := by
  obtain ⟨body, group, outside, count, more, bits, template, others, header, elements, tag, further,
    ⟨file, hfile, hfileTag, rfl, hfileEnd⟩, ⟨bigt, hbigt, hbigtTag, rfl, -⟩,
    ⟨bict, hbict, hbictTag, hbictValue, rfl⟩, hcount, ⟨bit, hbit, hbitTag, rfl, -⟩,
    ⟨bht, hbht, hbhtTag, -, helements⟩, htag, ⟨bdb, hbdb, hbdbTag, hbdbValue, hfurtherEnd⟩,
    hfurther⟩ := h
  have hwhole : file.encodedLen = encoded.length :=
    le_antisymm (decode_local hfile []).2.1 (List.drop_eq_nil_iff.mp hfileEnd.symm)
  have hread : ∃ more, readBht bit.value = .ok (bdb :: more) := by
    unfold readBht
    rw [hbht, Outcome.mapErr_ok, Outcome.ok_bind, if_neg (not_not_intro hbhtTag)]
    rw [helements] at hbdb hfurtherEnd
    rw [readElements_step hbdb, List.nil_append]
    exact readElements_objects hfurther [bdb] (by rw [hfurtherEnd, List.drop_drop])
  obtain ⟨more, hread⟩ := hread
  have htag' : bdb.tag.value = biometricDataBlockTag ∨
      bdb.tag.value = biometricDataBlockConstructedTag := by rwa [hbdbTag]
  obtain ⟨dg2, hdg2, himage⟩ := readBiometricDataBlock_record (ofEncoded encoded) record trailing
    more hbdbValue htag'
  refine ⟨dg2, ?_, himage⟩
  unfold fromBytes parseDgContent
  rw [hfile, Outcome.mapErr_ok, Outcome.ok_bind, if_neg (not_not_intro hfileTag),
    if_neg (not_not_intro hwhole), Outcome.ok_bind, hbigt, Outcome.mapErr_ok, Outcome.ok_bind,
    if_neg (not_not_intro hbigtTag), hbict, Outcome.mapErr_ok, Outcome.ok_bind,
    if_neg (not_not_intro hbictTag), hbictValue]
  dsimp only
  rw [if_pos hcount, sliceFrom_eq (decode_local hbict []).2.1, Outcome.ok_bind]
  unfold readBit
  rw [hbit, Outcome.mapErr_ok, Outcome.ok_bind, if_neg (not_not_intro hbitTag), hbht,
    Outcome.mapErr_ok, Outcome.ok_bind, hbhtTag, if_neg (by decide), if_pos (by decide), hread,
    Outcome.ok_bind, hdg2]

/-- **The portrait.** A record in templates that the parser walks through gives its image, cut where
the declared length says: the image itself for a record that declares its length, its beginning for
one that declares less, and never less than the image for one that declares more.  On no bytes does
the parser read out of range. -/
theorem fromBytes_image :
    (∀ (record : FacialRecord) (trailing encoded : Bytes),
      Wrapped encoded (record.encode ++ trailing) →
      ∃ dg2 image, fromBytes encoded = .ok dg2 ∧ dg2.imageData = some image ∧
        image = record.imageOf trailing ∧
        (record.declared = record.dataLength → image = record.image) ∧
        (32 + 8 * record.points.length ≤ record.declared →
          record.declared ≤ record.dataLength →
          image = record.image.take (record.declared - (32 + 8 * record.points.length))) ∧
        (record.dataLength ≤ record.declared → record.image <+: image)) ∧
    ∀ encoded, fromBytes encoded ≠ .panic := by
  refine ⟨fun record trailing encoded h => ?_, fromBytes_ne_panic⟩
  obtain ⟨dg2, hdg2, himage⟩ := fromBytes_record h
  have hsmall : record.dataLength < 2 ^ 31 := by
    obtain ⟨_, _, _, _, _, _, _, _, _, _, _, _, -, -, -, -, -, -, -, hblock, -⟩ := h
    have hlen := hblock.length_lt
    rw [List.length_append, record.length_encode] at hlen
    omega
  exact ⟨dg2, _, hdg2, himage, rfl, fun hdeclared => record.imageOf_declared hdeclared hsmall,
    fun hfixed hunder => record.imageOf_under hfixed hunder hsmall, record.imageOf_over⟩

/-- A record with two feature points and an image of three bytes, which declares one byte more than
it has. -/
def sampleRecord : FacialRecord where
  counts := [0, 0, 0, 0, 0, 1]
  counts_length := rfl
  declared := 52
  declared_lt := by decide
  appearance := List.replicate 14 0
  appearance_length := rfl
  points := List.replicate 2 (List.replicate 8 0x11)
  point_length := by decide
  points_le := by decide
  imageInfo := List.replicate 12 0
  imageInfo_length := rfl
  image := [0xFF, 0xD8, 0xFF]

theorem fromBytes_image_sample : ∃ encoded dg2,
    Wrapped encoded (sampleRecord.encode ++ [0xAA, 0xBB]) ∧ fromBytes encoded = .ok dg2 ∧
      dg2.imageData = some [0xFF, 0xD8, 0xFF, 0xAA] := by
  obtain ⟨encoded, hencoded⟩ := exists_wrapped (sampleRecord.encode ++ [0xAA, 0xBB])
    (by decide)
  obtain ⟨dg2, image, hdg2, himage, rfl, -⟩ :=
    fromBytes_image.1 sampleRecord [0xAA, 0xBB] encoded hencoded
  exact ⟨encoded, dg2, hencoded, hdg2, himage.trans (by decide)⟩

end EfDG2

end Dmrtd
