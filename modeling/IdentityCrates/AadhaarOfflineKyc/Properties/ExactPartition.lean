import IdentityCrates.AadhaarOfflineKyc.Parser

/-!
# The Secure QR as an exact partition

Two delimiters, three lengths and one buffer: the fields are found from the front, the signature
and the hashes from the end, and the photo is whatever lies between, `FF` bytes included.

`parse_decompressed` accepts a payload only if it is exactly its parts, in order, with nothing lost
or overlapping (`parseDecompressed_partition`).  Conversely a payload written in this layout is read
back (`parseDecompressed_encode`).  The number in the scanned text and its bytes are the same
payload as long as the first byte is not zero, and the verifying entry points answer only when the
signature over all but the last 256 bytes was checked.
-/

namespace AadhaarOfflineKyc

open Dmrtd (NaiveDate)
open Octets Rust
open Text hiding slice sliceFrom slice_eq sliceFrom_eq

/-! ## Text fields -/

/-- Fields as they stand in the payload, each closed by `FF`. -/
def joinFields (fields : List Bytes) : Bytes := fields.flatMap fun f => f ++ [0xFF]

@[simp] lemma joinFields_nil : joinFields [] = [] := rfl

@[simp] lemma joinFields_cons (f : Bytes) (fields : List Bytes) :
    joinFields (f :: fields) = f ++ [0xFF] ++ joinFields fields := rfl

@[simp] lemma joinFields_append (xs ys : List Bytes) :
    joinFields (xs ++ ys) = joinFields xs ++ joinFields ys := List.flatMap_append

/-- What the loop returns are the fields it had and the fields up to the sixteenth `FF`. -/
lemma splitLoop_sound {raw current : Bytes} {fields fs : List Bytes} {tail : Bytes}
    (hcurrent : (0xFF : UInt8) ∉ current) (h : splitLoop raw current fields = .ok (fs, tail)) :
    ∃ new, fs = fields ++ new ∧ fs.length = textFieldCount ∧ (∀ f ∈ new, (0xFF : UInt8) ∉ f) ∧
      current ++ raw = joinFields new ++ tail := by
  induction raw generalizing current fields with
  | nil => simp [splitLoop] at h
  | cons b rest ih =>
    unfold splitLoop at h
    split at h
    · rename_i hb
      subst hb
      split at h
      · rename_i hcount
        obtain ⟨rfl, rfl⟩ := Prod.mk.inj (Outcome.ok.inj h)
        refine ⟨[current], rfl, hcount, ?_, ?_⟩
        · intro f hf
          rw [List.mem_singleton] at hf
          rw [hf]
          exact hcurrent
        · simp
      · obtain ⟨new, hfs, hlen, hnew, hraw⟩ := ih (List.not_mem_nil) h
        refine ⟨current :: new, by rw [hfs, List.append_assoc]; rfl, hlen, ?_, ?_⟩
        · intro f hf
          rcases List.mem_cons.mp hf with rfl | hf
          · exact hcurrent
          · exact hnew f hf
        · rw [List.nil_append] at hraw
          rw [hraw]
          simp
    · rename_i hb
      have hcurrent' : (0xFF : UInt8) ∉ current ++ [b] := by
        intro hmem
        rcases List.mem_append.mp hmem with hmem | hmem
        · exact hcurrent hmem
        · exact hb (List.mem_singleton.mp hmem).symm
      obtain ⟨new, hfs, hlen, hnew, hraw⟩ := ih hcurrent' h
      refine ⟨new, hfs, hlen, hnew, ?_⟩
      rw [← hraw, List.append_assoc]
      rfl

/-- The loop runs over a field without touching the fields found. -/
lemma splitLoop_field {f : Bytes} (hf : (0xFF : UInt8) ∉ f) (rest current : Bytes)
    (fields : List Bytes) :
    splitLoop (f ++ rest) current fields = splitLoop rest (current ++ f) fields := by
  induction f generalizing current with
  | nil => rw [List.nil_append, List.append_nil]
  | cons b bs ih =>
    rw [List.mem_cons, not_or] at hf
    rw [List.cons_append, splitLoop, if_neg (Ne.symm hf.1), ih hf.2, List.append_assoc]
    rfl

/-- Sixteen fields written one after the other are found again. -/
lemma splitLoop_joinFields {new : List Bytes} (hne : new ≠ []) {fields : List Bytes}
    (hlen : fields.length + new.length = textFieldCount) (hnew : ∀ f ∈ new, (0xFF : UInt8) ∉ f)
    (tail : Bytes) : splitLoop (joinFields new ++ tail) [] fields = .ok (fields ++ new, tail) := by
  induction new generalizing fields with
  | nil => exact absurd rfl hne
  | cons f new ih =>
    have hcount : (fields ++ [f]).length = fields.length + 1 := by
      rw [List.length_append, List.length_singleton]
    rw [List.length_cons] at hlen
    rw [joinFields_cons, List.append_assoc, List.append_assoc, splitLoop_field (hnew f (by simp)),
      List.nil_append, List.singleton_append, splitLoop, if_pos rfl]
    by_cases hlast : new = []
    · subst hlast
      rw [if_pos (by rw [hcount]; simpa using hlen)]
      rfl
    · have hpos : 0 < new.length := List.length_pos_iff.mpr hlast
      rw [if_neg (by omega), ih hlast (by omega) fun g hg => hnew g (by simp [hg])]
      rw [List.append_assoc]
      rfl

lemma splitTextFields_sound {raw : Bytes} {fields : List Bytes} {tail : Bytes}
    (h : splitTextFields raw = .ok (fields, tail)) :
    fields.length = textFieldCount ∧ (∀ f ∈ fields, (0xFF : UInt8) ∉ f) ∧
      raw = joinFields fields ++ tail := by
  obtain ⟨new, rfl, hlen, hnew, hraw⟩ := splitLoop_sound (List.not_mem_nil) h
  exact ⟨hlen, hnew, hraw⟩

lemma splitTextFields_joinFields {fields : List Bytes} (hlen : fields.length = textFieldCount)
    (hfields : ∀ f ∈ fields, (0xFF : UInt8) ∉ f) (tail : Bytes) :
    splitTextFields (joinFields fields ++ tail) = .ok (fields, tail) := by
  have hne : fields ≠ [] := by
    rintro rfl
    exact absurd hlen (by decide)
  exact splitLoop_joinFields hne (by simpa using hlen) hfields tail

/-! ## The tail -/

/-- The tail is cut 256 bytes before its end, and so is the payload. -/
lemma splitTail_eq_ok {front tail signature body signed : Bytes} :
    splitTail (front ++ tail) tail = .ok (signature, body, signed) ↔
      tail = body ++ signature ∧ signature.length = signatureLen ∧ signed = front ++ body := by
  unfold splitTail
  constructor
  · intro h
    split at h
    · simp at h
    · rename_i hlen
      rw [sliceFrom_eq (Nat.sub_le _ _), Outcome.ok_bind,
        slice_eq (Nat.zero_le _) (Nat.sub_le _ _), Outcome.ok_bind,
        checkedSub_eq (by rw [List.length_append]; omega), Outcome.ok_bind,
        slice_eq (Nat.zero_le _) (Nat.sub_le _ _), Outcome.ok_bind] at h
      obtain ⟨rfl, hpair⟩ := Prod.mk.inj (Outcome.ok.inj h)
      obtain ⟨rfl, rfl⟩ := Prod.mk.inj hpair
      refine ⟨?_, ?_, ?_⟩
      · rw [List.drop_zero, Nat.sub_zero, List.take_append_drop]
      · rw [List.length_drop]
        omega
      · rw [List.drop_zero, Nat.sub_zero, List.drop_zero, Nat.sub_zero, List.length_append,
          Nat.add_sub_assoc (by omega), List.take_length_add_append]
  · rintro ⟨rfl, hlen, rfl⟩
    have htail : (body ++ signature).length - signatureLen = body.length := by
      rw [List.length_append]
      omega
    have hraw : (front ++ (body ++ signature)).length - signatureLen = (front ++ body).length := by
      simp only [List.length_append]
      omega
    rw [if_neg (by rw [List.length_append]; omega), htail,
      sliceFrom_eq (by rw [List.length_append]; omega), Outcome.ok_bind,
      slice_eq (Nat.zero_le _) (by rw [List.length_append]; omega), Outcome.ok_bind,
      checkedSub_eq (by simp only [List.length_append]; omega), Outcome.ok_bind, hraw,
      slice_eq (Nat.zero_le _) (by simp only [List.length_append]; omega), Outcome.ok_bind,
      List.drop_left, List.drop_zero, Nat.sub_zero, List.take_left' rfl, List.drop_zero,
      Nat.sub_zero, ← List.append_assoc, List.take_left' rfl]
    rfl

/-- What the indicator's hashes look like in the payload. -/
structure HashesFit (indicator : UInt8) (mobile email : Option Bytes) : Prop where
  mobile_iff : mobile.isSome = mobilePresent indicator
  email_iff : email.isSome = emailPresent indicator
  mobile_length : ∀ h ∈ mobile, h.length = hashLen
  email_length : ∀ h ∈ email, h.length = hashLen

/-- A region cut at a distance from its end. -/
lemma slice_front {body : Bytes} (n : Nat) :
    (slice body 0 (body.length - n) : Outcome AadhaarError Bytes) =
      .ok (body.take (body.length - n)) := by
  rw [slice_eq (Nat.zero_le _) (Nat.sub_le _ _), List.drop_zero, Nat.sub_zero]

lemma slice_hash {region : Bytes} (h : hashLen ≤ region.length) :
    (slice region 0 hashLen : Outcome AadhaarError Bytes) = .ok (region.take hashLen) := by
  rw [slice_eq (Nat.zero_le _) h, List.drop_zero, Nat.sub_zero]

lemma slice_single_hash {region : Bytes} (h : region.length = hashLen) :
    (slice region 0 hashLen : Outcome AadhaarError Bytes) = .ok region := by
  rw [slice_hash h.ge, List.take_of_length_le h.le]

lemma length_drop_back {body : Bytes} {n : Nat} (h : ¬ body.length < n) :
    (body.drop (body.length - n)).length = n := by
  rw [List.length_drop]
  omega

/-- The hashes are cut from the end of what is left of the tail, and the photo is the rest. -/
lemma splitHashes_sound {rawLen : Nat} {body photo : Bytes} {indicator : UInt8}
    {mobile email : Option Bytes}
    (h : splitHashes rawLen body indicator = .ok (photo, mobile, email)) :
    body = photo ++ mobile.getD [] ++ email.getD [] ∧ HashesFit indicator mobile email := by
  unfold splitHashes at h
  dsimp only at h
  by_cases hlen : body.length < (if mobilePresent indicator then hashLen else 0) +
      (if emailPresent indicator then hashLen else 0)
  · rw [if_pos hlen] at h
    simp at h
  · rw [if_neg hlen, slice_front, Outcome.ok_bind, sliceFrom_eq (Nat.sub_le _ _),
      Outcome.ok_bind] at h
    cases hm : mobilePresent indicator <;> cases he : emailPresent indicator <;>
      simp only [hm, he, Bool.false_eq_true, if_false, if_true, Nat.add_zero, Nat.zero_add] at h hlen
    · -- no hashes: the photo is everything
      obtain ⟨rfl, hpair⟩ := Prod.mk.inj (Outcome.ok.inj h)
      obtain ⟨rfl, rfl⟩ := Prod.mk.inj hpair
      exact ⟨by simp, by simp [hm], by simp [he], by simp, by simp⟩
    · have hregion := length_drop_back hlen
      rw [slice_single_hash hregion, Outcome.ok_bind] at h
      obtain ⟨rfl, hpair⟩ := Prod.mk.inj (Outcome.ok.inj h)
      obtain ⟨rfl, rfl⟩ := Prod.mk.inj hpair
      exact ⟨by simp, by simp [hm], by simp [he], by simp, by simpa using hregion⟩
    · have hregion := length_drop_back hlen
      rw [slice_single_hash hregion, Outcome.ok_bind] at h
      obtain ⟨rfl, hpair⟩ := Prod.mk.inj (Outcome.ok.inj h)
      obtain ⟨rfl, rfl⟩ := Prod.mk.inj hpair
      exact ⟨by simp, by simp [hm], by simp [he], by simpa using hregion, by simp⟩
    · have hregion := length_drop_back hlen
      rw [slice_hash (by omega), Outcome.ok_bind, sliceFrom_eq (by omega), Outcome.ok_bind] at h
      obtain ⟨rfl, hpair⟩ := Prod.mk.inj (Outcome.ok.inj h)
      obtain ⟨rfl, rfl⟩ := Prod.mk.inj hpair
      refine ⟨?_, by simp [hm], by simp [he], ?_, ?_⟩
      · rw [Option.getD_some, Option.getD_some, List.append_assoc, List.take_append_drop,
          List.take_append_drop]
      · intro x hx
        obtain rfl := Option.mem_some.mp hx
        rw [List.length_take]
        omega
      · intro x hx
        obtain rfl := Option.mem_some.mp hx
        rw [List.length_drop]
        omega

/-- A photo with the hashes the indicator declares behind it is cut apart there. -/
lemma splitHashes_append {rawLen : Nat} {photo : Bytes} {indicator : UInt8}
    {mobile email : Option Bytes} (h : HashesFit indicator mobile email) :
    splitHashes rawLen (photo ++ mobile.getD [] ++ email.getD []) indicator =
      .ok (photo, mobile, email) := by
  have hm := h.mobile_iff
  have he := h.email_iff
  have hml := h.mobile_length
  have hel := h.email_length
  unfold splitHashes
  dsimp only
  rw [← hm, ← he]
  cases mobile with
  | none =>
    cases email with
    | none => simp [slice, sliceFrom]
    | some email =>
      have hlen : email.length = hashLen := hel email rfl
      have hphoto : (photo ++ email).length - hashLen = photo.length := by
        rw [List.length_append]
        omega
      simp only [Option.isSome_none, Option.isSome_some, Bool.false_eq_true, if_false, if_true,
        Nat.zero_add, Option.getD_none, Option.getD_some, List.append_nil]
      rw [if_neg (by rw [List.length_append]; omega), slice_front, Outcome.ok_bind,
        sliceFrom_eq (Nat.sub_le _ _), Outcome.ok_bind, hphoto, List.drop_left,
        slice_single_hash hlen, Outcome.ok_bind, List.take_left' rfl]
      rfl
  | some mobile =>
    have hmlen : mobile.length = hashLen := hml mobile rfl
    cases email with
    | none =>
      have hphoto : (photo ++ mobile).length - hashLen = photo.length := by
        rw [List.length_append]
        omega
      simp only [Option.isSome_none, Option.isSome_some, Bool.false_eq_true, if_false, if_true,
        Nat.add_zero, Option.getD_none, Option.getD_some, List.append_nil]
      rw [if_neg (by rw [List.length_append]; omega), slice_front, Outcome.ok_bind,
        sliceFrom_eq (Nat.sub_le _ _), Outcome.ok_bind, hphoto, List.drop_left,
        slice_single_hash hmlen, Outcome.ok_bind, List.take_left' rfl]
      rfl
    | some email =>
      have hlen : email.length = hashLen := hel email rfl
      have hphoto : (photo ++ mobile ++ email).length - (hashLen + hashLen) = photo.length := by
        simp only [List.length_append]
        omega
      simp only [Option.isSome_some, if_true, Option.getD_some]
      rw [if_neg (by simp only [List.length_append]; omega), slice_front, Outcome.ok_bind,
        sliceFrom_eq (Nat.sub_le _ _), Outcome.ok_bind, hphoto, List.append_assoc, List.drop_left,
        slice_hash (by rw [List.length_append]; omega), Outcome.ok_bind,
        sliceFrom_eq (by rw [List.length_append]; omega), Outcome.ok_bind, List.take_left' rfl,
        List.take_left' hmlen, List.drop_left' hmlen]
      rfl

/-! ## What an accepted payload is -/

lemma utf8_eq_ok {raw : Bytes} {field : String} {s : Str} :
    utf8 raw field = .ok s ↔ raw = Utf8.encode s := by
  rw [utf8, Outcome.ofOption_eq_ok, Utf8.decode_eq_some]

/-- An optional field is its text, and nothing at all when it is absent. -/
lemma utf8Opt_eq_ok {raw : Bytes} {field : String} {value : Option Str} :
    utf8Opt raw field = .ok value ↔ raw = Utf8.encode (value.getD []) ∧ value ≠ some [] := by
  unfold utf8Opt
  cases raw with
  | nil =>
    rw [List.isEmpty_nil, if_pos rfl, Outcome.ok.injEq]
    constructor
    · rintro rfl
      exact ⟨rfl, by simp⟩
    · rintro ⟨hnil, hne⟩
      cases value with
      | none => rfl
      | some s =>
        rw [Option.getD_some] at hnil
        exact absurd (congrArg some (Utf8.encode_inj (t := []) hnil.symm)) hne
  | cons b rest =>
    rw [if_neg (by simp), Outcome.bind_eq_ok]
    constructor
    · rintro ⟨s, hs, hvalue⟩
      obtain rfl := Outcome.ok.inj hvalue
      have hraw := utf8_eq_ok.mp hs
      refine ⟨hraw, ?_⟩
      rintro ⟨⟩
      rw [Utf8.encode_nil] at hraw
      exact absurd hraw (by simp)
    · rintro ⟨hraw, -⟩
      cases value with
      | none =>
        rw [Option.getD_none, Utf8.encode_nil] at hraw
        exact absurd hraw (by simp)
      | some s => exact ⟨s, utf8_eq_ok.mpr hraw, rfl⟩

lemma parseReferenceId_eq_ok {raw : Bytes} {referenceId lastFour : Str} :
    parseReferenceId raw = .ok (referenceId, lastFour) ↔
      raw = Utf8.encode referenceId ∧ lastFour = referenceId.take 4 ∧ byteLen lastFour = 4 ∧
        lastFour.all Char.isDigit = true := by
  unfold parseReferenceId
  rw [Outcome.bind_eq_ok]
  constructor
  · rintro ⟨s, hs, h⟩
    dsimp only at h
    split at h
    · simp at h
    · rename_i hdigits
      rw [not_or, not_not, not_not] at hdigits
      obtain ⟨rfl, rfl⟩ := Prod.mk.inj (Outcome.ok.inj h)
      exact ⟨utf8_eq_ok.mp hs, rfl, hdigits.1, hdigits.2⟩
  · rintro ⟨rfl, rfl, hlen, hall⟩
    refine ⟨referenceId, utf8_eq_ok.mpr rfl, ?_⟩
    dsimp only
    rw [if_neg (by rw [not_or, not_not, not_not]; exact ⟨hlen, hall⟩)]
    rfl

lemma optField_eq_ok {fields : List Bytes} {i : Nat} {field : String} {value : Option Str} :
    optField fields i field = .ok value ↔
      fields[i]? = some (Utf8.encode (value.getD [])) ∧ value ≠ some [] := by
  unfold optField
  rw [Outcome.bind_eq_ok]
  simp only [index_eq_ok, utf8Opt_eq_ok]
  constructor
  · rintro ⟨raw, hraw, rfl, hne⟩
    exact ⟨hraw, hne⟩
  · rintro ⟨hraw, hne⟩
    exact ⟨_, hraw, rfl, hne⟩

/-- The address fields of a record, as they stand in the payload. -/
structure AddressFields (d : AadhaarData) (fields : List Bytes) : Prop where
  careOf : fields[5]? = some (Utf8.encode (d.careOf.getD []))
  district : fields[6]? = some (Utf8.encode (d.district.getD []))
  landmark : fields[7]? = some (Utf8.encode (d.landmark.getD []))
  house : fields[8]? = some (Utf8.encode (d.house.getD []))
  location : fields[9]? = some (Utf8.encode (d.location.getD []))
  pincode : fields[10]? = some (Utf8.encode (d.pincode.getD []))
  postOffice : fields[11]? = some (Utf8.encode (d.postOffice.getD []))
  state : fields[12]? = some (Utf8.encode (d.state.getD []))
  street : fields[13]? = some (Utf8.encode (d.street.getD []))
  subDistrict : fields[14]? = some (Utf8.encode (d.subDistrict.getD []))
  villageTownCity : fields[15]? = some (Utf8.encode (d.villageTownCity.getD []))

/-- The sixteen text fields of a record. -/
structure TextFields (d : AadhaarData) (fields : List Bytes) : Prop where
  indicator : ∃ f, fields[0]? = some f ∧ parseIndicator f = .ok d.emailMobileIndicator
  referenceId : fields[1]? = some (Utf8.encode d.referenceId)
  name : fields[2]? = some (Utf8.encode d.name)
  dob : ∃ f, fields[3]? = some f ∧ parseDob f = .ok d.dob
  gender : ∃ f, fields[4]? = some f ∧ Gender.parseByte f = d.gender
  address : AddressFields d fields

/-- The fields of `d` that are not address fields are those of `d₀`. -/
structure SameButAddress (d₀ d : AadhaarData) : Prop where
  emailMobileIndicator : d.emailMobileIndicator = d₀.emailMobileIndicator
  referenceId : d.referenceId = d₀.referenceId
  name : d.name = d₀.name
  dob : d.dob = d₀.dob
  gender : d.gender = d₀.gender
  photoJpeg : d.photoJpeg = d₀.photoJpeg
  mobileHash : d.mobileHash = d₀.mobileHash
  emailHash : d.emailHash = d₀.emailHash
  signature : d.signature = d₀.signature
  signedBytes : d.signedBytes = d₀.signedBytes

lemma parseAddress_sound {fields : List Bytes} {d₀ d : AadhaarData}
    (h : parseAddress fields d₀ = .ok d) : AddressFields d fields ∧ SameButAddress d₀ d := by
  simp only [parseAddress, Outcome.bind_eq_ok, optField_eq_ok] at h
  obtain ⟨_, ⟨h5, -⟩, _, ⟨h6, -⟩, _, ⟨h7, -⟩, _, ⟨h8, -⟩, _, ⟨h9, -⟩, _, ⟨h10, -⟩, _, ⟨h11, -⟩, _,
    ⟨h12, -⟩, _, ⟨h13, -⟩, _, ⟨h14, -⟩, _, ⟨h15, -⟩, hd⟩ := h
  obtain rfl := Outcome.ok.inj hd
  exact ⟨⟨h5, h6, h7, h8, h9, h10, h11, h12, h13, h14, h15⟩,
    ⟨rfl, rfl, rfl, rfl, rfl, rfl, rfl, rfl, rfl, rfl⟩⟩

/-- An accepted payload and its record, part by part. -/
structure Partition (raw : Bytes) (d : AadhaarData) (fields : List Bytes) : Prop where
  count : fields.length = 16
  delimited : ∀ f ∈ fields, (0xFF : UInt8) ∉ f
  texts : TextFields d fields
  raw_eq : raw = joinFields fields ++ d.photoJpeg.getD [] ++ d.mobileHash.getD [] ++
    d.emailHash.getD [] ++ d.signature
  hashes : HashesFit d.emailMobileIndicator d.mobileHash d.emailHash
  signature_length : d.signature.length = 256
  signed : d.signedBytes ++ d.signature = raw

/-- A photo of no bytes is no photo. -/
lemma getD_photo (photo : Bytes) :
    (if photo.isEmpty = true then none else some photo).getD [] = photo := by
  cases photo with
  | nil => rfl
  | cons b rest => rfl

/-- **Exact partition.**  An accepted payload is its sixteen fields, its photo, the hashes its
indicator declares and its signature, one behind the other. -/
lemma parseDecompressed_partition {raw : Bytes} {d : AadhaarData}
    (h : parseDecompressed raw = .ok d) : ∃ fields, Partition raw d fields := by
  simp only [parseDecompressed, Outcome.bind_eq_ok, index_eq_ok, Prod.exists] at h
  obtain ⟨fields, tail, hsplit, signature, body, signed, htail, f0, h0, indicator, hindicator, photo,
    mobile, email, hhashes, f1, h1, referenceId, lastFour, hreference, f3, h3, dob, hdob, f4, h4,
    f2, h2, name, hname, haddress⟩ := h
  obtain ⟨haddress, hsame⟩ := parseAddress_sound haddress
  obtain ⟨hcount, hdelimited, hraw⟩ := splitTextFields_sound hsplit
  rw [hraw] at htail
  obtain ⟨htail, hlen, hsigned⟩ := splitTail_eq_ok.mp htail
  obtain ⟨hbody, hfit⟩ := splitHashes_sound hhashes
  refine ⟨fields, hcount, hdelimited, ?_, ?_, ?_, ?_, ?_⟩
  · exact {
      indicator := ⟨f0, h0, by rw [hindicator, hsame.emailMobileIndicator]; rfl⟩
      referenceId := by rw [h1, hsame.referenceId, (parseReferenceId_eq_ok.mp hreference).1]; rfl
      name := by rw [h2, hsame.name, utf8_eq_ok.mp hname]; rfl
      dob := ⟨f3, h3, by rw [hdob, hsame.dob]; rfl⟩
      gender := ⟨f4, h4, hsame.gender.symm⟩
      address := haddress }
  · rw [hsame.photoJpeg, hsame.mobileHash, hsame.emailHash, hsame.signature]
    show raw = joinFields fields ++ (if photo.isEmpty = true then none else some photo).getD [] ++
      mobile.getD [] ++ email.getD [] ++ signature
    rw [getD_photo, hraw, htail, hbody]
    simp only [List.append_assoc]
  · rw [hsame.emailMobileIndicator, hsame.mobileHash, hsame.emailHash]
    exact hfit
  · rw [hsame.signature]
    exact hlen
  · rw [hsame.signature, hsame.signedBytes]
    show signed ++ signature = raw
    rw [hsigned, hraw, htail, List.append_assoc]

/-! ## Payloads in this layout -/

/-- What a payload is made from.  The text fields may be empty, the photo may be empty and hold any
bytes, and the invariants say what the layout asks of the rest. -/
structure Record where
  referenceId : Str
  referenceId_digits : 4 ≤ referenceId.length ∧ (referenceId.take 4).all Char.isDigit = true
  name : Str
  dob : Option NaiveDate
  dob_year : ∀ date ∈ dob, 0 ≤ date.year ∧ date.year < 10000
  gender : Option Gender
  careOf : Str
  district : Str
  landmark : Str
  house : Str
  location : Str
  pincode : Str
  postOffice : Str
  state : Str
  street : Str
  subDistrict : Str
  villageTownCity : Str
  photo : Bytes
  mobileHash : Option (FixedBytes 32)
  emailHash : Option (FixedBytes 32)
  signature : FixedBytes 256

namespace Record

/-- The digit that says which hashes there are. -/
def indicator (r : Record) : Nat :=
  (if r.mobileHash.isSome then 1 else 0) + (if r.emailHash.isSome then 2 else 0)

/-- A date as DD-MM-YYYY, or nothing. -/
def dobText : Option NaiveDate → Str
  | none => []
  | some date => decimal 2 date.day ++ '-' :: (decimal 2 date.month ++ '-' ::
      decimal 4 date.year.toNat)

/-- The letter of a gender, or nothing. -/
def genderText : Option Gender → Str
  | none => []
  | some .male => ['M']
  | some .female => ['F']
  | some .transgender => ['T']

/-- The text fields, in the order of the layout. -/
def texts (r : Record) : List Str :=
  [[r.indicator.digitChar], r.referenceId, r.name, dobText r.dob, genderText r.gender, r.careOf,
    r.district, r.landmark, r.house, r.location, r.pincode, r.postOffice, r.state, r.street,
    r.subDistrict, r.villageTownCity]

/-- What stands between the text fields and the signature. -/
def body (r : Record) : Bytes :=
  r.photo ++ (r.mobileHash.map Subtype.val).getD [] ++ (r.emailHash.map Subtype.val).getD []

/-- The signed part of the payload. -/
def signed (r : Record) : Bytes := joinFields (r.texts.map Utf8.encode) ++ r.body

/-- The payload. -/
def encode (r : Record) : Bytes := r.signed ++ r.signature.val

/-- An empty text is an absent field. -/
def optional (s : Str) : Option Str := if s.isEmpty then none else some s

/-- The record the payload stands for, with its empty fields absent. -/
def data (r : Record) : AadhaarData where
  emailMobileIndicator := UInt8.ofNat r.indicator
  referenceId := r.referenceId
  lastFourAadhaar := r.referenceId.take 4
  name := r.name
  dob := r.dob
  gender := r.gender
  careOf := optional r.careOf
  district := optional r.district
  landmark := optional r.landmark
  house := optional r.house
  location := optional r.location
  pincode := optional r.pincode
  postOffice := optional r.postOffice
  state := optional r.state
  street := optional r.street
  subDistrict := optional r.subDistrict
  villageTownCity := optional r.villageTownCity
  photoJpeg := if r.photo.isEmpty then none else some r.photo
  mobileHash := r.mobileHash.map Subtype.val
  emailHash := r.emailHash.map Subtype.val
  signature := r.signature.val
  signedBytes := r.signed
  signatureVerified := false

/-! ### Each field is read back -/

lemma utf8Opt_encode (s : Str) (field : String) :
    utf8Opt (Utf8.encode s) field = .ok (optional s) := by
  rw [utf8Opt_eq_ok]
  cases s with
  | nil => exact ⟨rfl, by simp [optional]⟩
  | cons c s => exact ⟨rfl, by simp [optional]⟩

/-- The four indicators are read as what they are. -/
lemma parseIndicator_digitChar {n : Nat} (h : n < 4) :
    parseIndicator (Utf8.encode [n.digitChar]) = .ok (UInt8.ofNat n) := by
  rw [parseIndicator, Utf8.decode_encode, Outcome.ofOption_some, Outcome.ok_bind]
  have htrim : trim [n.digitChar] = [n.digitChar] := by
    apply trim_of_forall
    intro c hc
    rw [List.mem_singleton.mp hc]
    exact Chrono.isWhitespace_of_isDigit (isDigit_digitChar (by omega))
  rw [htrim, parseUnsigned_digitChar (by omega) (by decide), Outcome.ofOption_some, Outcome.ok_bind,
    if_neg (by omega)]
  rfl

lemma isWhitespace_dobText {date : NaiveDate} : ∀ c ∈ dobText (some date),
    isWhitespace c = false := by
  have hdigits : ∀ w n, ∀ c ∈ decimal w n, isWhitespace c = false := fun w n c hc =>
    Chrono.isWhitespace_of_isDigit (List.all_eq_true.mp (isDigit_decimal w n) c hc)
  intro c hc
  simp only [dobText, List.mem_append, List.mem_cons] at hc
  rcases hc with hc | rfl | hc | rfl | hc
  · exact hdigits _ _ c hc
  · rfl
  · exact hdigits _ _ c hc
  · rfl
  · exact hdigits _ _ c hc

lemma parseDob_dobText {dob : Option NaiveDate}
    (hyear : ∀ date ∈ dob, 0 ≤ date.year ∧ date.year < 10000) :
    parseDob (Utf8.encode (dobText dob)) = .ok dob := by
  rw [parseDob, Utf8.decode_encode, Outcome.ofOption_some, Outcome.ok_bind]
  cases dob with
  | none => rfl
  | some date =>
    have hne : ¬ (dobText (some date)).isEmpty = true := by
      rw [List.isEmpty_iff_length_eq_zero]
      simp [dobText]
    have hparse := Chrono.parseFromStr_dmy (hyear date rfl) '-'
    dsimp only
    rw [trim_of_forall isWhitespace_dobText, if_neg hne, dobFormats, List.findSome?_cons]
    rw [show Chrono.parseFromStr (dobText (some date)) _ = some date from hparse]
    rfl

lemma parseByte_genderText (gender : Option Gender) :
    Gender.parseByte (Utf8.encode (genderText gender)) = gender := by
  rcases gender with _ | _ | _ | _ <;> decide

lemma byteLen_of_digits {s : Str} (h : s.all Char.isDigit = true) : byteLen s = s.length := by
  apply IsAscii.byteLen_eq
  intro c hc
  obtain ⟨d, hd, rfl⟩ := exists_digitChar (List.all_eq_true.mp h c hc)
  interval_cases d <;> rfl

lemma parseReferenceId_encode (r : Record) :
    parseReferenceId (Utf8.encode r.referenceId) = .ok (r.referenceId, r.referenceId.take 4) := by
  rw [parseReferenceId_eq_ok]
  refine ⟨rfl, rfl, ?_, r.referenceId_digits.2⟩
  rw [byteLen_of_digits r.referenceId_digits.2, List.length_take]
  have hlen := r.referenceId_digits.1
  omega

/-- The indicator declares the hashes there are. -/
lemma hashesFit (r : Record) :
    HashesFit (UInt8.ofNat r.indicator) (r.mobileHash.map Subtype.val)
      (r.emailHash.map Subtype.val) := by
  have hlen : ∀ hash : Option (FixedBytes 32), ∀ h ∈ hash.map Subtype.val, h.length = hashLen := by
    intro hash h hh
    obtain ⟨bytes, -, rfl⟩ := Option.mem_map.mp hh
    exact bytes.property
  refine ⟨?_, ?_, hlen _, hlen _⟩
  · rw [Option.isSome_map, indicator]
    cases r.mobileHash.isSome <;> cases r.emailHash.isSome <;> decide
  · rw [Option.isSome_map, indicator]
    cases r.mobileHash.isSome <;> cases r.emailHash.isSome <;> decide

lemma indicator_lt (r : Record) : r.indicator < 4 := by
  unfold indicator
  split <;> split <;> decide

end Record

/-- **Round trip.**  A payload in this layout is read back, its empty fields as absent ones. -/
lemma parseDecompressed_encode (r : Record) : parseDecompressed r.encode = .ok r.data := by
  have hfields : ∀ f ∈ r.texts.map Utf8.encode, (0xFF : UInt8) ∉ f := by
    intro f hf
    obtain ⟨s, -, rfl⟩ := List.mem_map.mp hf
    exact Utf8.notMem_encode s
  have hraw : r.encode = joinFields (r.texts.map Utf8.encode) ++ (r.body ++ r.signature.val) := by
    rw [Record.encode, Record.signed, List.append_assoc]
  have hsplit := splitTextFields_joinFields (show (r.texts.map Utf8.encode).length = textFieldCount
    from rfl) hfields (r.body ++ r.signature.val)
  have htail : splitTail (joinFields (r.texts.map Utf8.encode) ++ (r.body ++ r.signature.val))
      (r.body ++ r.signature.val) = .ok (r.signature.val, r.body, r.signed) :=
    splitTail_eq_ok.mpr ⟨rfl, r.signature.property, rfl⟩
  have hhashes : splitHashes r.encode.length r.body (UInt8.ofNat r.indicator) =
      .ok (r.photo, r.mobileHash.map Subtype.val, r.emailHash.map Subtype.val) :=
    splitHashes_append r.hashesFit
  rw [← hraw] at hsplit htail
  have hindex : ∀ i f, (r.texts.map Utf8.encode)[i]? = some f →
      (index (r.texts.map Utf8.encode) i : Outcome AadhaarError Bytes) = .ok f :=
    fun _ _ => index_eq
  unfold parseDecompressed
  simp only [hsplit, htail, Outcome.ok_bind, hindex 0 _ rfl, hindex 1 _ rfl, hindex 2 _ rfl,
    hindex 3 _ rfl, hindex 4 _ rfl, Record.parseIndicator_digitChar r.indicator_lt, hhashes,
    Record.parseReferenceId_encode, Record.parseDob_dobText r.dob_year,
    Record.parseByte_genderText, utf8_eq_ok.mpr rfl]
  simp only [parseAddress, optField, Outcome.ok_bind, hindex 5 _ rfl, hindex 6 _ rfl,
    hindex 7 _ rfl, hindex 8 _ rfl, hindex 9 _ rfl, hindex 10 _ rfl, hindex 11 _ rfl,
    hindex 12 _ rfl, hindex 13 _ rfl, hindex 14 _ rfl, hindex 15 _ rfl, Record.utf8Opt_encode]
  rfl

/-! ## The number in the scanned text -/

/-- The digits of a byte string are its bytes, least significant first. -/
lemma ofDigits_eq_ofBE (b : Bytes) :
    Nat.ofDigits 256 (b.reverse.map UInt8.toNat) = ofBE b := by
  induction b with
  | nil => rfl
  | cons x xs ih =>
    rw [List.reverse_cons, List.map_append, Nat.ofDigits_append, ih, ofBE_cons, List.length_map,
      List.length_reverse, List.map_singleton, Nat.ofDigits_singleton, Nat.mul_comm, Nat.add_comm]

/-- Without a leading zero a byte string is the one its number is written as. -/
lemma toBytesBe_ofBE {x : UInt8} (hx : x ≠ 0) (xs : Bytes) :
    toBytesBe (ofBE (x :: xs)) = x :: xs := by
  have hdigits : Nat.digits 256 (ofBE (x :: xs)) = (x :: xs).reverse.map UInt8.toNat := by
    rw [← ofDigits_eq_ofBE]
    apply Nat.digits_ofDigits 256 (by decide)
    · intro d hd
      obtain ⟨b, -, rfl⟩ := List.mem_map.mp hd
      exact b.toNat_lt
    · intro hne
      have hlast : ((x :: xs).reverse.map UInt8.toNat).getLast hne = x.toNat := by simp
      rw [hlast]
      exact (toNat_pos hx).ne'
  have hbytes : UInt8.ofNat ∘ UInt8.toNat = id := funext fun b => UInt8.ofNat_toNat
  rw [toBytesBe, if_neg (ofBE_pos hx xs).ne', hdigits, List.map_map, hbytes, List.map_id,
    List.reverse_reverse]

/-- **The number is the payload.**  Scanned as a numeral or given as bytes, a payload whose first
byte is not zero is the same. -/
lemma parseSecureQrText_numeral (crates : Crates) {b : Bytes} {x : UInt8} (hhead : b.head? = some x)
    (hx : x ≠ 0) :
    parseSecureQrText crates (Nat.toDigits 10 (ofBE b)) = parseSecureQrBytes crates b := by
  obtain ⟨xs, rfl⟩ : ∃ xs, b = x :: xs := by
    cases b with
    | nil => simp at hhead
    | cons y ys => exact ⟨ys, by rw [Option.some.inj hhead]⟩
  have hdigits : (Nat.toDigits 10 (ofBE (x :: xs))).all Char.isDigit = true := by
    rw [List.all_eq_true]
    exact fun c hc => Nat.isDigit_of_mem_toDigits (by decide) (by decide) hc
  have htrim : trim (Nat.toDigits 10 (ofBE (x :: xs))) = Nat.toDigits 10 (ofBE (x :: xs)) :=
    trim_of_forall fun c hc =>
      Chrono.isWhitespace_of_isDigit (List.all_eq_true.mp hdigits c hc)
  have hne : ¬ (Nat.toDigits 10 (ofBE (x :: xs))).isEmpty = true := by
    rw [List.isEmpty_iff]
    exact Nat.toDigits_ne_nil
  unfold parseSecureQrText
  dsimp only
  rw [htrim, if_neg (by rw [not_or, not_not]; exact ⟨hne, hdigits⟩), ofDigits_toDigits,
    toBytesBe_ofBE hx]

/-! ## The verifying entry points -/

/-- What the gzip magic makes of scanned bytes. -/
def decompressed (crates : Crates) (bytes : Bytes) : Outcome AadhaarError Bytes :=
  if isGzip bytes then tryGunzip crates bytes else .ok bytes

/-- Some pinned certificate's key validates the payload's last 256 bytes over all before them. -/
def SignatureChecked (crates : Crates) (raw : Bytes) : Prop :=
  256 ≤ raw.length ∧
    ∃ signature, crates.signatureTryFrom (raw.drop (raw.length - 256)) = .ok signature ∧
      ∃ cert ∈ crates.uidaiCerts, ∃ key, crates.certRsaPublicKey cert = some key ∧
        crates.verify key (raw.take (raw.length - 256)) signature = true

lemma verifyUidaiRsaSha256_eq_true {crates : Crates} {signed signature : Bytes}
    (h : verifyUidaiRsaSha256 crates signed signature = .ok true) :
    ∃ sig, crates.signatureTryFrom signature = .ok sig ∧
      ∃ cert ∈ crates.uidaiCerts, ∃ key, crates.certRsaPublicKey cert = some key ∧
        crates.verify key signed sig = true := by
  unfold verifyUidaiRsaSha256 verifyWithCerts at h
  split at h
  · simp at h
  · rename_i sig hsig
    rw [Outcome.ok.injEq, List.any_eq_true] at h
    obtain ⟨cert, hcert, hvalid⟩ := h
    refine ⟨sig, hsig, cert, hcert, ?_⟩
    split at hvalid
    · rename_i key hkey
      exact ⟨key, hkey, hvalid⟩
    · exact absurd hvalid (by decide)

/-- `verified` passes a record on only when its signature was checked. -/
lemma verified_eq_ok {crates : Crates} {d₀ d : AadhaarData} (h : verified crates d₀ = .ok d) :
    verifyUidaiRsaSha256 crates d₀.signedBytes d₀.signature = .ok true ∧
      d = { d₀ with signatureVerified := true } := by
  rw [verified, Outcome.bind_eq_ok] at h
  obtain ⟨valid, hvalid, h⟩ := h
  cases valid with
  | false => simp at h
  | true =>
    refine ⟨?_, (Outcome.ok.inj h).symm⟩
    unfold AadhaarData.verify at hvalid
    split at hvalid
    · simp at hvalid
    · exact hvalid

/-- The record's parts are cut where the signature is. -/
lemma Partition.cut {raw : Bytes} {d : AadhaarData} {fields : List Bytes}
    (h : Partition raw d fields) :
    256 ≤ raw.length ∧ raw.take (raw.length - 256) = d.signedBytes ∧
      raw.drop (raw.length - 256) = d.signature := by
  have hlen := h.signature_length
  have hcut : raw.length - 256 = d.signedBytes.length := by
    rw [← h.signed, List.length_append]
    omega
  refine ⟨?_, ?_, ?_⟩
  · rw [← h.signed, List.length_append]
    omega
  · rw [hcut, ← h.signed, List.take_left' rfl]
  · rw [hcut, ← h.signed, List.drop_left]

/-- A verified payload was parsed, and its signature checked over all but its last 256 bytes. -/
lemma parseAndVerifyDecompressed_sound {crates : Crates} {raw : Bytes} {d : AadhaarData}
    (h : parseAndVerifyDecompressed crates raw = .ok d) :
    SignatureChecked crates raw ∧
      ∃ d₀, parseDecompressed raw = .ok d₀ ∧ d = { d₀ with signatureVerified := true } := by
  rw [parseAndVerifyDecompressed, Outcome.bind_eq_ok] at h
  obtain ⟨d₀, hparse, hverified⟩ := h
  obtain ⟨hchecked, hd⟩ := verified_eq_ok hverified
  obtain ⟨fields, hpartition⟩ := parseDecompressed_partition hparse
  obtain ⟨hlen, hsigned, hsignature⟩ := hpartition.cut
  refine ⟨⟨hlen, ?_⟩, d₀, hparse, hd⟩
  rw [hsigned, hsignature]
  exact verifyUidaiRsaSha256_eq_true hchecked

/-- The entry point for bytes is the one for the payload they are decompressed to. -/
lemma parseAndVerifySecureQrBytes_eq (crates : Crates) (bytes : Bytes) :
    parseAndVerifySecureQrBytes crates bytes =
      decompressed crates bytes >>= parseAndVerifyDecompressed crates := by
  unfold parseAndVerifySecureQrBytes parseSecureQrBytes decompressed
  split
  · cases tryGunzip crates bytes <;> rfl
  · rfl

/-- The entry point for the scanned text is the one for the bytes of its number. -/
lemma parseAndVerifySecureQrText_eq_ok {crates : Crates} {text : Str} {d : AadhaarData}
    (h : parseAndVerifySecureQrText crates text = .ok d) :
    parseAndVerifySecureQrBytes crates (toBytesBe (ofDigits (trim text))) = .ok d := by
  rw [parseAndVerifySecureQrText, Outcome.bind_eq_ok] at h
  obtain ⟨d₀, hparse, hverified⟩ := h
  unfold parseSecureQrText at hparse
  dsimp only at hparse
  split at hparse
  · simp at hparse
  · rw [parseAndVerifySecureQrBytes, Outcome.bind_eq_ok]
    exact ⟨d₀, hparse, hverified⟩

lemma parseAndVerifySecureQrBytes_sound {crates : Crates} {bytes : Bytes} {d : AadhaarData}
    (h : parseAndVerifySecureQrBytes crates bytes = .ok d) :
    ∃ raw, decompressed crates bytes = .ok raw ∧ SignatureChecked crates raw := by
  rw [parseAndVerifySecureQrBytes_eq, Outcome.bind_eq_ok] at h
  obtain ⟨raw, hraw, hverified⟩ := h
  exact ⟨raw, hraw, (parseAndVerifyDecompressed_sound hverified).1⟩

/-- A payload's verification on its own answers `true` for a checked signature only. -/
lemma verifySecureQrPayload_sound {crates : Crates} {raw : Bytes}
    (h : verifySecureQrPayload crates raw = .ok true) : SignatureChecked crates raw := by
  unfold verifySecureQrPayload at h
  split at h
  · simp at h
  · rename_i hlen
    exact ⟨by unfold signatureLen at hlen; omega, verifyUidaiRsaSha256_eq_true h⟩

/-! ## The contract -/

/-- What the Secure QR parser promises. -/
structure ExactPartition (crates : Crates) : Prop where
  partition : ∀ raw d, parseDecompressed raw = .ok d → ∃ fields, Partition raw d fields
  encoded : ∀ record : Record, parseDecompressed record.encode = .ok record.data
  numeral : ∀ (b : Bytes) (x : UInt8), b.head? = some x → x ≠ 0 →
    parseSecureQrText crates (Nat.toDigits 10 (ofBE b)) = parseSecureQrBytes crates b
  verifiedDecompressed : ∀ raw d, parseAndVerifyDecompressed crates raw = .ok d →
    SignatureChecked crates raw
  verifiedBytes : ∀ bytes d, parseAndVerifySecureQrBytes crates bytes = .ok d →
    ∃ raw, decompressed crates bytes = .ok raw ∧ SignatureChecked crates raw
  verifiedText : ∀ text d, parseAndVerifySecureQrText crates text = .ok d →
    ∃ raw, decompressed crates (toBytesBe (ofDigits (trim text))) = .ok raw ∧
      SignatureChecked crates raw
  verifiedPayload : ∀ raw, verifySecureQrPayload crates raw = .ok true →
    SignatureChecked crates raw

/-- **The Secure QR is an exact partition.** -/
theorem exactPartition (crates : Crates) : ExactPartition crates where
  partition := fun _ _ => parseDecompressed_partition
  encoded := parseDecompressed_encode
  numeral := fun _ _ => parseSecureQrText_numeral crates
  verifiedDecompressed := fun _ _ h => (parseAndVerifyDecompressed_sound h).1
  verifiedBytes := fun _ _ => parseAndVerifySecureQrBytes_sound
  verifiedText := fun _ _ h =>
    parseAndVerifySecureQrBytes_sound (parseAndVerifySecureQrText_eq_ok h)
  verifiedPayload := fun _ => verifySecureQrPayload_sound

end AadhaarOfflineKyc
