import IdentityCrates.Lib.Outcome
import IdentityCrates.Dmrtd.Utils

/-!
# BER-TLV encoding and decoding

The subset of BER-TLV that ISO 7816-4 and ICAO 9303 use: `tlv.rs`.  Tags are at most four bytes,
lengths at most three.

The decoder is *local*: what it returns depends only on the bytes it reports as consumed.  That
one fact (`Tlv.decode_local`) is what lets a parser that walks over a string with running offsets
be replayed on any other string with the same prefix.
-/

namespace Dmrtd

open Rust Octets

/-- `TlvError`. -/
inductive TlvError where
  | lengthTooLarge
  | emptyTag
  | invalidTag
  | emptyLength
  | invalidLength
  | lengthTooBig
  | indefiniteLength
  | notEnoughData
  deriving DecidableEq, Repr

/-- The `Display` text of a `TlvError`. -/
def TlvError.text : TlvError → String
  | .lengthTooLarge => "Can't encode negative or greater than 16 777 215 length"
  | .emptyTag => "Can't decode empty encodedTag"
  | .invalidTag => "Invalid encoded tag"
  | .emptyLength => "Can't decode empty encodedLength"
  | .invalidLength => "Invalid encoded length"
  | .lengthTooBig => "Encoded length is too big"
  | .indefiniteLength => "Indefinite length (0x80) is not allowed"
  | .notEnoughData => "Not enough data to decode TLV value"

/-- `DecodedTag`: a tag and the number of bytes it took. -/
structure DecodedTag where
  value : Nat
  encodedLen : Nat
  deriving DecidableEq, Repr

/-- `DecodedLen`: a length and the number of bytes it took. -/
structure DecodedLen where
  value : Nat
  encodedLen : Nat
  deriving DecidableEq, Repr

/-- `DecodedTv`: a tag, the value bytes, and the total number of bytes consumed. -/
structure DecodedTv where
  tag : DecodedTag
  value : Bytes
  encodedLen : Nat
  deriving DecidableEq, Repr

/-- `DecodedTl`: a tag and a length, without the value. -/
structure DecodedTl where
  tag : DecodedTag
  length : DecodedLen
  encodedLen : Nat
  deriving DecidableEq, Repr

/-- `Tlv`: a tag and a value. -/
structure Tlv where
  tag : Nat
  value : Bytes
  deriving DecidableEq, Repr

namespace Tlv

/-! ## Encoding -/

/-- `Tlv::encode_tag`. -/
def encodeTag (tag : Nat) : Bytes :=
  let bc := byteCount tag
  let count := if bc = 0 then 1 else bc
  (List.range count).map fun i =>
    if i < bc then UInt8.ofNat ((tag >>> (8 * (bc - i - 1))) &&& 0xFF) else 0

/-- `Tlv::encode_length`. -/
def encodeLength (length : Nat) : Outcome TlvError Bytes :=
  if length > 0xFFFFFF then .err .lengthTooLarge
  else
    let bc := byteCount length
    if length < 0x80 then .ok [UInt8.ofNat length]
    else .ok ((UInt8.ofNat bc ||| 0x80) ::
      (List.range bc).map fun i => UInt8.ofNat ((length >>> (8 * (bc - i - 1))) &&& 0xFF))

/-- `Tlv::encode`.  Panics when `data` is longer than a three-byte length can say. -/
def encode {ε : Type} (tag : Nat) (data : Bytes) : Outcome ε Bytes := do
  let l ← (encodeLength data.length).expect
  return encodeTag tag ++ l ++ data

/-- `Tlv::to_bytes`. -/
def toBytes {ε : Type} (tlv : Tlv) : Outcome ε Bytes := encode tlv.tag tlv.value

/-! ## Decoding -/

/-- The continuation bytes of a multi-byte tag: `b` is the byte just read and `offset` the number
of bytes read so far.  Appending a byte to a tag that no longer fits a `u32` is refused. -/
def decodeTagTail (tag offset : Nat) (b : UInt8) : Bytes → Outcome TlvError DecodedTag
  | [] =>
    if b &&& 0x80 = 0x80 then .err .invalidTag
    else if tag > 0xFFFFFFFF >>> 8 then .err .invalidTag
    else .ok ⟨tag <<< 8 ||| b.toNat, offset⟩
  | b' :: rest =>
    if b &&& 0x80 = 0x80 then
      if tag > 0xFFFFFFFF >>> 8 then .err .invalidTag
      else decodeTagTail (tag <<< 8 ||| b.toNat) (offset + 1) b' rest
    else if tag > 0xFFFFFFFF >>> 8 then .err .invalidTag
    else .ok ⟨tag <<< 8 ||| b.toNat, offset⟩

/-- `Tlv::decode_tag`. -/
def decodeTag : Bytes → Outcome TlvError DecodedTag
  | [] => .err .emptyTag
  | firstByte :: rest =>
    if firstByte &&& 0x1F = 0x1F then
      match rest with
      | [] => .err .invalidTag
      | b :: rest => decodeTagTail firstByte.toNat 2 b rest
    else .ok ⟨firstByte.toNat, 1⟩

/-- `Tlv::decode_length`. -/
def decodeLength : Bytes → Outcome TlvError DecodedLen
  | [] => .err .emptyLength
  | first :: rest =>
    if first &&& 0x80 = 0x80 then
      let numLenBytes := (first &&& 0x7F).toNat
      if numLenBytes = 0 then .err .indefiniteLength
      else if numLenBytes > 3 then .err .lengthTooBig
      else
        let totalBytes := 1 + numLenBytes
        if totalBytes > (first :: rest).length then .err .invalidLength
        else .ok ⟨(rest.take numLenBytes).foldl (fun length byte => length * 0x100 + byte.toNat) 0,
          totalBytes⟩
    else .ok ⟨first.toNat, 1⟩

/-- `Tlv::decode_tag_and_length`. -/
def decodeTagAndLength (encoded : Bytes) : Outcome TlvError DecodedTl := do
  let tag ← decodeTag encoded
  let len ← decodeLength (encoded.drop tag.encodedLen)
  return ⟨tag, len, tag.encodedLen + len.encodedLen⟩

/-- `Tlv::decode`. -/
def decode (encodedTlv : Bytes) : Outcome TlvError DecodedTv := do
  let tl ← decodeTagAndLength encodedTlv
  let fin := tl.encodedLen + tl.length.value
  if fin > encodedTlv.length then .err .notEnoughData
  else .ok ⟨tl.tag, (encodedTlv.take fin).drop tl.encodedLen, fin⟩

/-- `Tlv::from_bytes`. -/
def fromBytes (encodedTlv : Bytes) : Outcome TlvError Tlv := do
  let tv ← decode encodedTlv
  return ⟨tv.tag.value, tv.value⟩

/-! ## The encoder writes big-endian numbers -/

lemma map_shift_eq_toBE (w n : Nat) :
    ((List.range w).map fun i => UInt8.ofNat ((n >>> (8 * (w - i - 1))) &&& 0xFF)) = toBE w n := by
  rw [toBE_eq_map]
  apply List.map_congr_left
  intro i _
  apply UInt8.toNat_inj.mp
  have hmask : ∀ m : Nat, m &&& 0xFF = m % 2 ^ 8 := fun m => Nat.and_two_pow_sub_one_eq_mod m 8
  simp only [hmask, UInt8.toNat_ofNat']
  omega

lemma encodeTag_eq_toBE {tag : Nat} (h : 0 < tag) : encodeTag tag = toBE (byteCount tag) tag := by
  have hbc := byteCount_pos h
  rw [← map_shift_eq_toBE]
  simp only [encodeTag, if_neg (by omega : ¬ byteCount tag = 0)]
  apply List.map_congr_left
  intro i hi
  rw [if_pos (List.mem_range.mp hi)]

/-- A tag below 256 is one byte. -/
lemma encodeTag_of_lt {tag : Nat} (h : tag < 256) : encodeTag tag = [UInt8.ofNat tag] := by
  rcases Nat.eq_zero_or_pos tag with rfl | hpos
  · rfl
  · rw [encodeTag_eq_toBE hpos, byteCount_eq_one hpos h, toBE_one]

lemma encodeLength_of_lt {n : Nat} (h : n < 0x80) : encodeLength n = .ok [UInt8.ofNat n] := by
  simp [encodeLength, h, show ¬ n > 0xFFFFFF by omega]

lemma encodeLength_of_ge {n : Nat} (h : 0x80 ≤ n) (hmax : n ≤ 0xFFFFFF) :
    encodeLength n = .ok ((UInt8.ofNat (byteCount n) ||| 0x80) :: toBE (byteCount n) n) := by
  simp only [encodeLength, if_neg (by omega : ¬ n > 0xFFFFFF), if_neg (by omega : ¬ n < 0x80),
    map_shift_eq_toBE]

lemma encodeLength_isOk {n : Nat} (hmax : n ≤ 0xFFFFFF) : ∃ l, encodeLength n = .ok l := by
  by_cases h : n < 0x80
  · exact ⟨_, encodeLength_of_lt h⟩
  · exact ⟨_, encodeLength_of_ge (by omega) hmax⟩

/-- A length field is at most four bytes long. -/
lemma length_encodeLength_le {n : Nat} {l : Bytes} (h : encodeLength n = .ok l) :
    1 ≤ l.length ∧ l.length ≤ 4 := by
  by_cases hmax : n > 0xFFFFFF
  · simp [encodeLength, hmax] at h
  by_cases hs : n < 0x80
  · rw [encodeLength_of_lt hs] at h
    obtain rfl := Outcome.ok.inj h
    simp
  · rw [encodeLength_of_ge (by omega) (by omega)] at h
    obtain rfl := Outcome.ok.inj h
    have hbc : byteCount n ≤ 3 := (byteCount_le_iff n 3).mpr (by omega)
    simp only [List.length_cons, length_toBE]
    omega

lemma encode_eq_ok {ε : Type} {tag : Nat} {data out : Bytes} :
    (encode tag data : Outcome ε Bytes) = .ok out ↔
      ∃ l, encodeLength data.length = .ok l ∧ out = encodeTag tag ++ l ++ data := by
  simp only [encode, Outcome.bind_eq_ok, Outcome.expect_eq_ok, Outcome.pure_eq, Outcome.ok.injEq]
  exact exists_congr fun l => and_congr_right fun _ => eq_comm

/-- `Tlv::encode` succeeds on every value a three-byte length can describe. -/
lemma encode_isOk {ε : Type} {tag : Nat} {data : Bytes} (h : data.length ≤ 0xFFFFFF) :
    ∃ out, (encode tag data : Outcome ε Bytes) = .ok out := by
  obtain ⟨l, hl⟩ := encodeLength_isOk h
  exact ⟨_, encode_eq_ok.mpr ⟨l, hl, rfl⟩⟩

/-! ## Reading back a length -/

lemma or_msb_and_msb {k : Nat} (h : k < 0x80) : (UInt8.ofNat k ||| 0x80) &&& 0x80 = 0x80 := by
  have hall : ∀ k : Fin 128, (UInt8.ofNat k.val ||| 0x80) &&& 0x80 = 0x80 := by decide
  exact hall ⟨k, h⟩

lemma or_msb_and_low {k : Nat} (h : k < 0x80) :
    ((UInt8.ofNat k ||| 0x80) &&& 0x7F).toNat = k := by
  have hall : ∀ k : Fin 128, ((UInt8.ofNat k.val ||| 0x80) &&& 0x7F).toNat = k.val := by decide
  exact hall ⟨k, h⟩

lemma ofNat_and_msb {k : Nat} (h : k < 0x80) : ¬ UInt8.ofNat k &&& 0x80 = 0x80 := by
  have hall : ∀ k : Fin 128, ¬ UInt8.ofNat k.val &&& 0x80 = 0x80 := by decide
  exact hall ⟨k, h⟩

/-- An encoded length reads back, whatever follows it. -/
lemma decodeLength_encodeLength {n : Nat} {l : Bytes} (h : encodeLength n = .ok l) (ys : Bytes) :
    decodeLength (l ++ ys) = .ok ⟨n, l.length⟩ := by
  by_cases hmax : n > 0xFFFFFF
  · simp [encodeLength, hmax] at h
  by_cases hs : n < 0x80
  · rw [encodeLength_of_lt hs] at h
    obtain rfl := Outcome.ok.inj h
    have hn : n % 2 ^ 8 = n := by omega
    simp only [List.cons_append, List.nil_append, decodeLength, if_neg (ofNat_and_msb hs),
      UInt8.toNat_ofNat', hn, List.length_singleton]
  · rw [encodeLength_of_ge (by omega) (by omega)] at h
    obtain rfl := Outcome.ok.inj h
    have hbc : byteCount n ≤ 3 := (byteCount_le_iff n 3).mpr (by omega)
    have hpos : 0 < byteCount n := byteCount_pos (by omega)
    have htake : (toBE (byteCount n) n ++ ys).take (byteCount n) = toBE (byteCount n) n :=
      take_append_of_length (length_toBE _ _)
    have hval : (toBE (byteCount n) n).foldl (fun len b => len * 0x100 + b.toNat) 0 = n := by
      change ofBE (toBE (byteCount n) n) = n
      rw [ofBE_toBE, Nat.mod_eq_of_lt (lt_pow_byteCount n)]
    have hlen : ¬ byteCount n + 1 > (toBE (byteCount n) n ++ ys).length + 1 := by
      rw [List.length_append, length_toBE]
      omega
    simp only [List.cons_append, decodeLength, or_msb_and_msb (by omega : byteCount n < 0x80),
      or_msb_and_low (by omega : byteCount n < 0x80), if_true, if_neg (by omega : ¬ byteCount n = 0),
      if_neg (by omega : ¬ byteCount n > 3), List.length_cons, if_neg hlen, htake, hval, length_toBE,
      Nat.add_comm 1]

/-! ## Locality

Each decoder looks only at the bytes it reports as consumed. -/

lemma decodeTagTail_local {tag offset : Nat} {b : UInt8} {xs : Bytes} {t : DecodedTag}
    (h : decodeTagTail tag offset b xs = .ok t) (ys : Bytes) :
    offset ≤ t.encodedLen ∧ t.encodedLen ≤ offset + xs.length ∧
      decodeTagTail tag offset b (xs.take (t.encodedLen - offset) ++ ys) = .ok t := by
  induction xs generalizing tag offset b with
  | nil =>
    simp only [decodeTagTail] at h
    split at h
    · simp at h
    split at h
    · simp at h
    obtain rfl := Outcome.ok.inj h
    refine ⟨le_rfl, by simp, ?_⟩
    cases ys with
    | nil => simp_all [decodeTagTail]
    | cons y ys => simp_all [decodeTagTail]
  | cons x xs ih =>
    simp only [decodeTagTail] at h
    split at h
    · rename_i hb
      split at h
      · simp at h
      · rename_i hfit
        obtain ⟨hle, hub, heq⟩ := ih h
        have hsub : t.encodedLen - offset = (t.encodedLen - (offset + 1)) + 1 := by omega
        refine ⟨by omega, by simp only [List.length_cons]; omega, ?_⟩
        rw [hsub, List.take_succ_cons, List.cons_append, decodeTagTail, if_pos hb, if_neg hfit]
        exact heq
    · rename_i hb
      split at h
      · simp at h
      · rename_i hfit
        obtain rfl := Outcome.ok.inj h
        refine ⟨le_rfl, by simp, ?_⟩
        cases ys with
        | nil => simp_all [decodeTagTail]
        | cons y ys => simp_all [decodeTagTail]

lemma decodeTag_local {xs : Bytes} {t : DecodedTag} (h : decodeTag xs = .ok t) (ys : Bytes) :
    1 ≤ t.encodedLen ∧ t.encodedLen ≤ xs.length ∧
      decodeTag (xs.take t.encodedLen ++ ys) = .ok t := by
  rcases xs with _ | ⟨x, xs⟩
  · simp [decodeTag] at h
  by_cases hx : x &&& 0x1F = 0x1F
  · rcases xs with _ | ⟨b, xs⟩
    · simp [decodeTag, hx] at h
    · simp only [decodeTag, hx, if_true] at h
      obtain ⟨hle, hub, heq⟩ := decodeTagTail_local h ys
      obtain ⟨k, hk⟩ : ∃ k, t.encodedLen = k + 2 := ⟨t.encodedLen - 2, by omega⟩
      refine ⟨by omega, by simp only [List.length_cons]; omega, ?_⟩
      rw [hk] at heq ⊢
      rw [Nat.add_sub_cancel] at heq
      simpa only [List.take_succ_cons, List.cons_append, decodeTag, hx, if_true] using heq
  · simp only [decodeTag, hx, if_false, Outcome.ok.injEq] at h
    subst h
    simp [decodeTag, hx]

lemma decodeLength_local {xs : Bytes} {l : DecodedLen} (h : decodeLength xs = .ok l) (ys : Bytes) :
    1 ≤ l.encodedLen ∧ l.encodedLen ≤ xs.length ∧
      decodeLength (xs.take l.encodedLen ++ ys) = .ok l := by
  rcases xs with _ | ⟨x, xs⟩
  · simp [decodeLength] at h
  by_cases hx : x &&& 0x80 = 0x80
  · simp only [decodeLength, hx, if_true] at h
    split at h
    · simp at h
    split at h
    · simp at h
    split at h
    · simp at h
    rename_i hne hle3 hlen
    obtain rfl := Outcome.ok.inj h
    simp only [List.length_cons] at hlen ⊢
    refine ⟨by omega, by omega, ?_⟩
    have htl : (xs.take (x &&& 0x7F).toNat).length = (x &&& 0x7F).toNat := by
      rw [List.length_take]
      omega
    rw [Nat.add_comm 1, List.take_succ_cons, List.cons_append]
    have hlen' : ¬ (x &&& 0x7F).toNat + 1 >
        (x :: (xs.take (x &&& 0x7F).toNat ++ ys)).length := by
      simp only [List.length_cons, List.length_append, htl]
      omega
    simp only [decodeLength, hx, if_true, if_neg hne, if_neg hle3, if_neg hlen',
      take_append_of_length htl, Nat.add_comm 1]
  · simp only [decodeLength, hx, if_false, Outcome.ok.injEq] at h
    subst h
    simp [decodeLength, hx]

lemma decodeTagAndLength_eq_ok {xs : Bytes} {tl : DecodedTl} :
    decodeTagAndLength xs = .ok tl ↔
      decodeTag xs = .ok tl.tag ∧ decodeLength (xs.drop tl.tag.encodedLen) = .ok tl.length ∧
        tl.encodedLen = tl.tag.encodedLen + tl.length.encodedLen := by
  simp only [decodeTagAndLength, Outcome.bind_eq_ok, Outcome.pure_eq, Outcome.ok.injEq]
  constructor
  · rintro ⟨t, ht, l, hl, rfl⟩
    exact ⟨ht, hl, rfl⟩
  · rintro ⟨ht, hl, he⟩
    refine ⟨_, ht, _, hl, ?_⟩
    rw [← he]

lemma decodeTagAndLength_local {xs : Bytes} {tl : DecodedTl}
    (h : decodeTagAndLength xs = .ok tl) (ys : Bytes) :
    2 ≤ tl.encodedLen ∧ tl.encodedLen ≤ xs.length ∧
      decodeTagAndLength (xs.take tl.encodedLen ++ ys) = .ok tl := by
  obtain ⟨ht, hl, he⟩ := decodeTagAndLength_eq_ok.mp h
  obtain ⟨ht1, htl, -⟩ := decodeTag_local ht []
  obtain ⟨hl1, hll, -⟩ := decodeLength_local hl []
  rw [List.length_drop] at hll
  refine ⟨by omega, by omega, decodeTagAndLength_eq_ok.mpr ⟨?_, ?_, he⟩⟩
  · rw [he, take_append_drop_of_le (Nat.le_add_right _ _), List.append_assoc]
    exact (decodeTag_local ht _).2.2
  · have htake : (xs.take tl.encodedLen).length = tl.encodedLen := by
      rw [List.length_take]
      omega
    rw [List.drop_append_of_le_length (by omega), List.drop_take, he, Nat.add_sub_cancel_left]
    exact (decodeLength_local hl _).2.2

/-- A header that decodes still decodes, to the same thing, when bytes are appended. -/
lemma decodeTagAndLength_append {xs : Bytes} {tl : DecodedTl}
    (h : decodeTagAndLength xs = .ok tl) (ys : Bytes) :
    decodeTagAndLength (xs ++ ys) = .ok tl := by
  have h' := (decodeTagAndLength_local h (xs.drop tl.encodedLen ++ ys)).2.2
  rwa [← List.append_assoc, List.take_append_drop] at h'

lemma decode_eq_ok {xs : Bytes} {tv : DecodedTv} :
    decode xs = .ok tv ↔ ∃ tl, decodeTagAndLength xs = .ok tl ∧
      tl.encodedLen + tl.length.value ≤ xs.length ∧
      tv = ⟨tl.tag, (xs.take (tl.encodedLen + tl.length.value)).drop tl.encodedLen,
        tl.encodedLen + tl.length.value⟩ := by
  simp only [decode, Outcome.bind_eq_ok]
  constructor
  · rintro ⟨tl, htl, h⟩
    split at h
    · simp at h
    · rename_i hle
      exact ⟨tl, htl, by omega, (Outcome.ok.inj h).symm⟩
  · rintro ⟨tl, htl, hle, rfl⟩
    exact ⟨tl, htl, by rw [if_neg (by omega)]⟩

/-- What a successful decode consumed: a header, the value, and nothing else. -/
lemma decode_sound {xs : Bytes} {tv : DecodedTv} (h : decode xs = .ok tv) :
    ∃ hdr rest, xs = hdr ++ tv.value ++ rest ∧ 2 ≤ hdr.length ∧
      tv.encodedLen = hdr.length + tv.value.length := by
  obtain ⟨tl, htl, hle, rfl⟩ := decode_eq_ok.mp h
  obtain ⟨h2, hub, -⟩ := decodeTagAndLength_local htl []
  refine ⟨xs.take tl.encodedLen, xs.drop (tl.encodedLen + tl.length.value), ?_, ?_, ?_⟩
  · rw [List.drop_take, Nat.add_sub_cancel_left, ← take_append_drop_of_add,
      List.take_append_drop]
  · rw [List.length_take]
    omega
  · simp only [List.length_take, List.length_drop]
    omega

/-- A decode depends only on the bytes it consumed. -/
theorem decode_local {xs : Bytes} {tv : DecodedTv} (h : decode xs = .ok tv) (ys : Bytes) :
    2 ≤ tv.encodedLen ∧ tv.encodedLen ≤ xs.length ∧
      decode (xs.take tv.encodedLen ++ ys) = .ok tv := by
  obtain ⟨tl, htl, hle, rfl⟩ := decode_eq_ok.mp h
  obtain ⟨h2, hub, -⟩ := decodeTagAndLength_local htl []
  refine ⟨by simp only; omega, hle, decode_eq_ok.mpr ⟨tl, ?_, ?_, ?_⟩⟩
  · rw [take_append_drop_of_le (Nat.le_add_right _ _), List.append_assoc]
    exact (decodeTagAndLength_local htl _).2.2
  · simp only [List.length_append, List.length_take]
    omega
  · rw [List.take_append_of_le_length (by simp only [List.length_take]; omega), List.take_take,
      Nat.min_self]

lemma decode_append {xs : Bytes} {tv : DecodedTv} (h : decode xs = .ok tv) (ys : Bytes) :
    decode (xs ++ ys) = .ok tv := by
  have h' := (decode_local h (xs.drop tv.encodedLen ++ ys)).2.2
  rwa [← List.append_assoc, List.take_append_drop] at h'

/-! ## The decoders never panic -/

lemma decodeTagTail_ne_panic (tag offset : Nat) (b : UInt8) (xs : Bytes) :
    decodeTagTail tag offset b xs ≠ .panic := by
  induction xs generalizing tag offset b with
  | nil =>
    simp only [decodeTagTail]
    repeat' split
    all_goals simp
  | cons x xs ih =>
    simp only [decodeTagTail]
    repeat' split
    all_goals simp [ih]

lemma decodeTag_ne_panic (xs : Bytes) : decodeTag xs ≠ .panic := by
  rcases xs with _ | ⟨x, _ | ⟨b, xs⟩⟩
  · simp [decodeTag]
  · simp only [decodeTag]
    split <;> simp
  · simp only [decodeTag]
    split
    · exact decodeTagTail_ne_panic _ _ _ _
    · simp

lemma decodeLength_ne_panic (xs : Bytes) : decodeLength xs ≠ .panic := by
  rcases xs with _ | ⟨x, xs⟩
  · simp [decodeLength]
  · simp only [decodeLength]
    repeat' split
    all_goals simp

lemma decodeTagAndLength_ne_panic (xs : Bytes) : decodeTagAndLength xs ≠ .panic :=
  Outcome.bind_ne_panic (decodeTag_ne_panic xs) fun _ _ =>
    Outcome.bind_ne_panic (decodeLength_ne_panic _) fun _ _ => by simp

lemma decode_ne_panic (xs : Bytes) : decode xs ≠ .panic :=
  Outcome.bind_ne_panic (decodeTagAndLength_ne_panic xs) fun _ _ => by dsimp only; split <;> simp

lemma decode_mapErr_ne_panic {ε : Type} (xs : Bytes) (g : TlvError → ε) :
    (decode xs).mapErr g ≠ .panic := Outcome.mapErr_ne_panic (decode_ne_panic xs)

/-! ## Tags

A tag is kept as the number its bytes denote, most significant first, so it goes out again as the
bytes that came in. -/

/-- Is this a tag that the decoder can return? -/
def IsTag (tag : Nat) : Prop := ∃ encoded t, decodeTag encoded = .ok t ∧ t.value = tag

lemma shiftLeft_or_byte (tag : Nat) (b : UInt8) : tag <<< 8 ||| b.toNat = tag * 256 + b.toNat := by
  rw [← Nat.shiftLeft_add_eq_or_of_lt b.toNat_lt, Nat.shiftLeft_eq]

lemma decodeTagTail_value {tag offset : Nat} {b : UInt8} {xs : Bytes} {t : DecodedTag}
    (h : decodeTagTail tag offset b xs = .ok t) :
    t.value = (b :: xs.take (t.encodedLen - offset)).foldl (fun n b => n * 256 + b.toNat) tag := by
  induction xs generalizing tag offset b with
  | nil =>
    simp only [decodeTagTail] at h
    split at h
    · simp at h
    split at h
    · simp at h
    obtain rfl := Outcome.ok.inj h
    simp [shiftLeft_or_byte]
  | cons x xs ih =>
    simp only [decodeTagTail] at h
    split at h
    · split at h
      · simp at h
      · have hmore := (decodeTagTail_local h []).1
        have hsub : t.encodedLen - offset = (t.encodedLen - (offset + 1)) + 1 := by omega
        rw [ih h, hsub, List.take_succ_cons, shiftLeft_or_byte]
        simp only [List.foldl_cons]
    · split at h
      · simp at h
      obtain rfl := Outcome.ok.inj h
      simp [shiftLeft_or_byte]

/-- Bytes that do not start with a zero are what their number is encoded to. -/
lemma encodeTag_ofBE {b : UInt8} (hb : b ≠ 0) (bs : Bytes) :
    encodeTag (ofBE (b :: bs)) = b :: bs := by
  have hge : 256 ^ bs.length ≤ ofBE (b :: bs) := pow_le_ofBE hb bs
  have hcount : byteCount (ofBE (b :: bs)) = (b :: bs).length := by
    have hle : byteCount (ofBE (b :: bs)) ≤ (b :: bs).length :=
      (byteCount_le_iff _ _).mpr (ofBE_lt _)
    have hnot : ¬ byteCount (ofBE (b :: bs)) ≤ bs.length := by
      rw [byteCount_le_iff]
      omega
    rw [List.length_cons] at hle ⊢
    omega
  rw [encodeTag_eq_toBE (ofBE_pos hb bs), hcount, toBE_ofBE]

/-- A tag is encoded to the bytes it was decoded from. -/
theorem encodeTag_decodeTag {xs : Bytes} {t : DecodedTag} (h : decodeTag xs = .ok t) :
    encodeTag t.value = xs.take t.encodedLen := by
  rcases xs with _ | ⟨x, xs⟩
  · simp [decodeTag] at h
  by_cases hx : x &&& 0x1F = 0x1F
  · rcases xs with _ | ⟨b, xs⟩
    · simp [decodeTag, hx] at h
    · simp only [decodeTag, hx, if_true] at h
      have hmore := (decodeTagTail_local h []).1
      have hvalue := decodeTagTail_value h
      obtain ⟨k, hk⟩ : ∃ k, t.encodedLen = k + 2 := ⟨t.encodedLen - 2, by omega⟩
      have hx0 : x ≠ 0 := by
        rintro rfl
        exact absurd hx (by decide)
      have hfold : t.value = ofBE (x :: b :: xs.take k) := by
        rw [hvalue, hk, Nat.add_sub_cancel]
        simp [ofBE]
      rw [hfold, encodeTag_ofBE hx0, hk]
      rfl
  · simp only [decodeTag, hx, if_false, Outcome.ok.injEq] at h
    subst h
    rw [encodeTag_of_lt x.toNat_lt]
    simp

/-- A tag that the decoder can return is decoded from its encoding, whatever follows it. -/
theorem decodeTag_encodeTag {tag : Nat} (h : IsTag tag) (ys : Bytes) :
    decodeTag (encodeTag tag ++ ys) = .ok ⟨tag, (encodeTag tag).length⟩ := by
  obtain ⟨encoded, t, hdecode, rfl⟩ := h
  obtain ⟨-, hle, hlocal⟩ := decodeTag_local hdecode ys
  have hlen : (encodeTag t.value).length = t.encodedLen := by
    rw [encodeTag_decodeTag hdecode, List.length_take]
    omega
  rw [hlen, encodeTag_decodeTag hdecode]
  exact hlocal

lemma isTag_iff {tag : Nat} :
    IsTag tag ↔ decodeTag (encodeTag tag) = .ok ⟨tag, (encodeTag tag).length⟩ := by
  constructor
  · intro h
    have hread := decodeTag_encodeTag h []
    rwa [List.append_nil] at hread
  · exact fun h => ⟨_, _, h, rfl⟩

instance (tag : Nat) : Decidable (IsTag tag) := decidable_of_iff _ isTag_iff.symm

lemma decodeTagTail_lt {tag offset : Nat} {b : UInt8} {xs : Bytes} {t : DecodedTag}
    (h : decodeTagTail tag offset b xs = .ok t) : t.value < 2 ^ 32 := by
  have hlast : ∀ {tag : Nat} (b : UInt8), ¬ tag > 0xFFFFFFFF >>> 8 →
      tag <<< 8 ||| b.toNat < 2 ^ 32 := by
    intro tag b hfit
    have hfit : tag ≤ 0xFFFFFF := not_lt.mp hfit
    have hb := b.toNat_lt
    rw [shiftLeft_or_byte]
    omega
  induction xs generalizing tag offset b with
  | nil =>
    simp only [decodeTagTail] at h
    split at h
    · simp at h
    split at h
    · simp at h
    obtain rfl := Outcome.ok.inj h
    exact hlast b ‹_›
  | cons x xs ih =>
    simp only [decodeTagTail] at h
    split at h
    · split at h
      · simp at h
      · exact ih h
    · split at h
      · simp at h
      obtain rfl := Outcome.ok.inj h
      exact hlast b ‹_›

/-- A tag that the decoder can return fits the four bytes of a `u32`. -/
lemma IsTag.lt {tag : Nat} (h : IsTag tag) : tag < 2 ^ 32 := by
  obtain ⟨encoded, t, hdecode, rfl⟩ := h
  rcases encoded with _ | ⟨x, xs⟩
  · simp [decodeTag] at hdecode
  by_cases hx : x &&& 0x1F = 0x1F
  · rcases xs with _ | ⟨b, xs⟩
    · simp [decodeTag, hx] at hdecode
    · simp only [decodeTag, hx, if_true] at hdecode
      exact decodeTagTail_lt hdecode
  · simp only [decodeTag, hx, if_false, Outcome.ok.injEq] at hdecode
    subst hdecode
    exact lt_of_lt_of_le x.toNat_lt (by decide)

/-- A tag goes out in four bytes at most. -/
lemma length_encodeTag_le {tag : Nat} (h : IsTag tag) : (encodeTag tag).length ≤ 4 := by
  rcases Nat.eq_zero_or_pos tag with rfl | hpos
  · decide
  · rw [encodeTag_eq_toBE hpos, length_toBE]
    exact (byteCount_le_iff tag 4).mpr h.lt

/-- The length of a value has three octets at most. -/
lemma decodeLength_bounds {xs : Bytes} {l : DecodedLen} (h : decodeLength xs = .ok l) :
    l.encodedLen ≤ 4 ∧ l.value < 2 ^ 24 := by
  rcases xs with _ | ⟨first, rest⟩
  · cases h
  simp only [decodeLength] at h
  split at h
  · split at h
    · cases h
    split at h
    · cases h
    split at h
    · cases h
    rename_i hthree _
    obtain rfl := Outcome.ok.inj h
    have hfold : (rest.take (first &&& 0x7F).toNat).foldl
        (fun length byte => length * 0x100 + byte.toNat) 0 =
          ofBE (rest.take (first &&& 0x7F).toNat) := rfl
    refine ⟨by simp only; omega, ?_⟩
    show (rest.take (first &&& 0x7F).toNat).foldl _ 0 < 2 ^ 24
    rw [hfold]
    calc ofBE (rest.take (first &&& 0x7F).toNat)
        < 256 ^ (rest.take (first &&& 0x7F).toNat).length := ofBE_lt _
      _ ≤ 256 ^ 3 := Nat.pow_le_pow_right (by decide) (by rw [List.length_take]; omega)
      _ = 2 ^ 24 := by norm_num
  · obtain rfl := Outcome.ok.inj h
    have hbyte := first.toNat_lt
    refine ⟨Nat.le_of_ble_eq_true rfl, ?_⟩
    show first.toNat < 2 ^ 24
    omega

/-- A header is eight bytes at most, and announces less than 2²⁴ bytes more. -/
lemma decodeTagAndLength_bounds {xs : Bytes} {tl : DecodedTl}
    (h : decodeTagAndLength xs = .ok tl) : tl.encodedLen ≤ 8 ∧ tl.length.value < 2 ^ 24 := by
  obtain ⟨ht, hl, he⟩ := decodeTagAndLength_eq_ok.mp h
  have htag : tl.tag.encodedLen ≤ 4 := by
    have hlen := length_encodeTag_le ⟨_, _, ht, rfl⟩
    have hle := (decodeTag_local ht []).2.1
    rwa [encodeTag_decodeTag ht, List.length_take, Nat.min_eq_left hle] at hlen
  obtain ⟨hlength, hvalue⟩ := decodeLength_bounds hl
  exact ⟨by omega, hvalue⟩

/-! ## Single-byte tags -/

/-- Is this a tag the single-byte form can carry? -/
def IsSingleByte (tag : Nat) : Prop := tag < 256 ∧ ¬ UInt8.ofNat tag &&& 0x1F = 0x1F

instance (tag : Nat) : Decidable (IsSingleByte tag) := inferInstanceAs (Decidable (_ ∧ _))

lemma decodeTag_of_singleByte {tag : Nat} (h : IsSingleByte tag) (ys : Bytes) :
    decodeTag (UInt8.ofNat tag :: ys) = .ok ⟨tag, 1⟩ := by
  have hn : tag % 2 ^ 8 = tag := by
    have := h.1
    omega
  simp only [decodeTag, if_neg h.2, UInt8.toNat_ofNat', hn]

/-- A single-byte tag is the first byte. -/
lemma decode_tag_of_head {b : UInt8} {xs : Bytes} {tv : DecodedTv} (hb : ¬ b &&& 0x1F = 0x1F)
    (h : decode (b :: xs) = .ok tv) : tv.tag = ⟨b.toNat, 1⟩ := by
  obtain ⟨tl, htl, -, rfl⟩ := decode_eq_ok.mp h
  obtain ⟨ht, -, -⟩ := decodeTagAndLength_eq_ok.mp htl
  simp only [decodeTag, if_neg hb, Outcome.ok.injEq] at ht
  exact ht.symm

lemma isTag_of_singleByte {tag : Nat} (h : IsSingleByte tag) : IsTag tag :=
  ⟨_, _, decodeTag_of_singleByte h [], rfl⟩

/-- The encoder's output decodes to what was encoded, whatever follows it. -/
theorem decode_encode_of_isTag {ε : Type} {tag : Nat} {data out : Bytes} (htag : IsTag tag)
    (h : (encode tag data : Outcome ε Bytes) = .ok out) (ys : Bytes) :
    decode (out ++ ys) = .ok ⟨⟨tag, (encodeTag tag).length⟩, data, out.length⟩ := by
  obtain ⟨l, hl, rfl⟩ := encode_eq_ok.mp h
  have htl : decodeTagAndLength (encodeTag tag ++ l ++ data ++ ys) =
      .ok ⟨⟨tag, (encodeTag tag).length⟩, ⟨data.length, l.length⟩,
        (encodeTag tag).length + l.length⟩ := by
    refine decodeTagAndLength_eq_ok.mpr ⟨?_, ?_, rfl⟩
    · rw [List.append_assoc, List.append_assoc]
      exact decodeTag_encodeTag htag _
    · rw [List.append_assoc, List.append_assoc, drop_append_of_length rfl]
      exact decodeLength_encodeLength hl (data ++ ys)
  refine decode_eq_ok.mpr ⟨_, htl, ?_, ?_⟩
  · simp only [List.length_append]
    omega
  · have htake : (encodeTag tag ++ l ++ data ++ ys).take
        ((encodeTag tag).length + l.length + data.length) = encodeTag tag ++ l ++ data :=
      take_append_of_length (by simp only [List.length_append])
    have hdrop : (encodeTag tag ++ l ++ data).drop ((encodeTag tag).length + l.length) = data :=
      drop_append_of_length (by simp only [List.length_append])
    simp only [htake, hdrop, List.length_append]

/-- The same under a single-byte tag. -/
theorem decode_encode {ε : Type} {tag : Nat} {data out : Bytes} (htag : IsSingleByte tag)
    (h : (encode tag data : Outcome ε Bytes) = .ok out) (ys : Bytes) :
    decode (out ++ ys) = .ok ⟨⟨tag, 1⟩, data, out.length⟩ := by
  have hread := decode_encode_of_isTag (isTag_of_singleByte htag) h ys
  rwa [encodeTag_of_lt htag.1, List.length_singleton] at hread

/-- Under one tag, equal encodings are encodings of equal values. -/
lemma encode_inj {ε : Type} {tag : Nat} {data data' out : Bytes}
    (h : (encode tag data : Outcome ε Bytes) = .ok out)
    (h' : (encode tag data' : Outcome ε Bytes) = .ok out) : data = data' := by
  obtain ⟨l, hl, rfl⟩ := encode_eq_ok.mp h
  obtain ⟨l', hl', hout⟩ := encode_eq_ok.mp h'
  rw [List.append_assoc, List.append_assoc, List.append_cancel_left_eq] at hout
  have hread := decodeLength_encodeLength hl data
  rw [hout, decodeLength_encodeLength hl' data', Outcome.ok.injEq, DecodedLen.mk.injEq] at hread
  exact (List.append_inj hout hread.2.symm).2

/-- The same for `Tlv::from_bytes`. -/
lemma fromBytes_encode {ε : Type} {tag : Nat} {data out : Bytes} (htag : IsSingleByte tag)
    (h : (encode tag data : Outcome ε Bytes) = .ok out) : fromBytes out = .ok ⟨tag, data⟩ := by
  have hdecode := decode_encode htag h []
  rw [List.append_nil] at hdecode
  rw [fromBytes, hdecode, Outcome.ok_bind, Outcome.pure_eq]

/-- An encoding is at most five bytes longer than its value, under a single-byte tag. -/
lemma length_encode_le {ε : Type} {tag : Nat} {data out : Bytes} (htag : tag < 256)
    (h : (encode tag data : Outcome ε Bytes) = .ok out) : out.length ≤ data.length + 5 := by
  obtain ⟨l, hl, rfl⟩ := encode_eq_ok.mp h
  have hlen := (length_encodeLength_le hl).2
  rw [encodeTag_of_lt htag]
  simp only [List.length_append, List.length_singleton]
  omega

end Tlv

end Dmrtd
