import IdentityCrates.Dmrtd.Crypto.Iso9797
import IdentityCrates.Dmrtd.Lds.Tlv
import IdentityCrates.Dmrtd.Proto.Iso7816

/-!
# Three codecs, exactly

What the encoders and decoders at the bottom of the stack do on *every* input, not only on each
other's output.

* Command APDUs: whatever `CommandApdu::new` accepts is read back from its bytes by the seven cases
  of ISO 7816-4, so no two different commands have the same bytes (`commandEncoding`).
* Tags: `decode_tag` succeeds exactly on tags that end within the input and take at most four bytes,
  and `encode_tag` gives those bytes back (`tagCodec`).
* Padding: `unpad` accepts exactly the image of `pad` (`paddingExact`).
-/

namespace Dmrtd

open Rust Octets

/-! ## Command APDUs -/

namespace CommandApdu

/-- The wire form of a command determines it, but for the difference between no data and empty
data. -/
structure CommandEncoding : Prop where
  /-- The seven cases read back the header, the data and the expected length. -/
  decode : ∀ cla ins p1 p2 data ne c, new cla ins p1 p2 data ne = .ok c →
    parse c.toBytes = some ⟨[cla, ins, p1, p2], data.getD [], ne⟩
  /-- Commands with the same bytes have the same header, data and expected length. -/
  injective : ∀ cla ins p1 p2 data ne c cla' ins' p1' p2' data' ne' c',
    new cla ins p1 p2 data ne = .ok c → new cla' ins' p1' p2' data' ne' = .ok c' →
    c.toBytes = c'.toBytes →
    cla = cla' ∧ ins = ins' ∧ p1 = p1' ∧ p2 = p2' ∧ data.getD [] = data'.getD [] ∧ ne = ne'

lemma parse_new {cla ins p1 p2 : UInt8} {data : Option Bytes} {ne : Nat} {c : CommandApdu}
    (h : new cla ins p1 p2 data ne = .ok c) :
    parse c.toBytes = some ⟨[cla, ins, p1, p2], data.getD [], ne⟩ := by
  obtain ⟨rfl, hlimits⟩ := new_eq_ok.mp h
  exact parse_toBytes hlimits

theorem commandEncoding : CommandEncoding where
  decode := fun _ _ _ _ _ _ _ h => parse_new h
  injective := by
    intro cla ins p1 p2 data ne c cla' ins' p1' p2' data' ne' c' h h' hbytes
    have hwire := parse_new h
    rw [hbytes, parse_new h', Option.some.injEq, Wire.mk.injEq] at hwire
    obtain ⟨hheader, hdata, hne⟩ := hwire
    simp only [List.cons.injEq, and_true] at hheader
    obtain ⟨rfl, rfl, rfl, rfl⟩ := hheader
    exact ⟨rfl, rfl, rfl, rfl, hdata.symm, hne.symm⟩

end CommandApdu

/-! ## Tags -/

namespace Tlv

/-- The number of bytes up to the first without its top bit, if there is one. -/
def tailLength? : Bytes → Option Nat
  | [] => none
  | b :: rest => if b &&& 0x80 = 0x80 then (tailLength? rest).map (· + 1) else some 1

/-- The number of bytes of the tag an input begins with, unless it is truncated. -/
def tagLength? : Bytes → Option Nat
  | [] => none
  | first :: rest => if first &&& 0x1F = 0x1F then (tailLength? rest).map (· + 1) else some 1

/-- Does the input end within its tag? -/
def Truncated (encoded : Bytes) : Prop := tagLength? encoded = none

/-- Does the input begin with a tag of more than four bytes? -/
def TooLong (encoded : Bytes) : Prop := ∃ n, tagLength? encoded = some n ∧ 4 < n

/-- Tags are decoded as they are encoded. -/
structure TagCodec : Prop where
  /-- A tag that is decoded has the bytes it is encoded to, and no bit of them is lost. -/
  decoded : ∀ encoded t, decodeTag encoded = .ok t → tagLength? encoded = some t.encodedLen ∧
    t.encodedLen ≤ 4 ∧ encodeTag t.value = encoded.take t.encodedLen ∧
    t.value = ofBE (encoded.take t.encodedLen) ∧ t.value < 2 ^ 32
  /-- Decoding fails exactly when the tag is truncated or too long. -/
  fails : ∀ encoded, (∃ e, decodeTag encoded = .err e) ↔ Truncated encoded ∨ TooLong encoded
  /-- It does nothing else but succeed and fail. -/
  total : ∀ encoded, decodeTag encoded ≠ .panic
  /-- What is encoded is decoded, where it can be. -/
  encoded : ∀ tag rest, IsTag tag →
    decodeTag (encodeTag tag ++ rest) = .ok ⟨tag, (encodeTag tag).length⟩

/-- A number of `c` bytes can take another one in four bytes if there are three at most. -/
lemma fits_iff {c tag : Nat} (hlow : 256 ^ (c - 1) ≤ tag) (hhigh : tag < 256 ^ c) :
    ¬ tag > 0xFFFFFFFF >>> 8 ↔ c ≤ 3 := by
  have hlimit : (0xFFFFFFFF >>> 8 : Nat) = 256 ^ 3 - 1 := by decide
  rw [hlimit]
  constructor
  · intro hfit
    by_contra hlong
    have hpow : 256 ^ 3 ≤ 256 ^ (c - 1) := Nat.pow_le_pow_right (by decide) (by omega)
    omega
  · intro hle
    have hpow : 256 ^ c ≤ 256 ^ 3 := Nat.pow_le_pow_right (by decide) hle
    omega

/-- One more byte makes a number of one more byte. -/
lemma append_byte {c tag : Nat} (hc : 1 ≤ c) (hlow : 256 ^ (c - 1) ≤ tag) (hhigh : tag < 256 ^ c)
    (b : UInt8) : 256 ^ c ≤ tag <<< 8 ||| b.toNat ∧ tag <<< 8 ||| b.toNat < 256 ^ (c + 1) := by
  have hb := b.toNat_lt
  rw [shiftLeft_or_byte]
  constructor
  · calc 256 ^ c = 256 ^ (c - 1) * 256 := by rw [← pow_succ, Nat.sub_add_cancel hc]
      _ ≤ tag * 256 := Nat.mul_le_mul_right 256 hlow
      _ ≤ tag * 256 + b.toNat := Nat.le_add_right _ _
  · calc tag * 256 + b.toNat < tag * 256 + 256 := Nat.add_lt_add_left hb _
      _ = (tag + 1) * 256 := (Nat.succ_mul tag 256).symm
      _ ≤ 256 ^ c * 256 := Nat.mul_le_mul_right 256 (Nat.succ_le_of_lt hhigh)
      _ = 256 ^ (c + 1) := (pow_succ 256 c).symm

/-- The last byte of a tag. -/
lemma decodeTagTail_last {tag offset : Nat} {b : UInt8} (hb : ¬ b &&& 0x80 = 0x80) (rest : Bytes) :
    decodeTagTail tag offset b rest = if tag > 0xFFFFFFFF >>> 8 then .err .invalidTag
      else .ok ⟨tag <<< 8 ||| b.toNat, offset⟩ := by
  cases rest with
  | nil => rw [decodeTagTail, if_neg hb]
  | cons b' rest => rw [decodeTagTail, if_neg hb]

lemma decodeTagTail_last_iff {c tag offset : Nat} {b : UInt8} (hb : ¬ b &&& 0x80 = 0x80)
    (rest : Bytes) (hfits : ¬ tag > 0xFFFFFFFF >>> 8 ↔ c ≤ 3) :
    (∃ t, decodeTagTail tag offset b rest = .ok t) ↔
      ∃ k, tailLength? (b :: rest) = some k ∧ c + k ≤ 4 := by
  rw [decodeTagTail_last hb, tailLength?, if_neg hb]
  by_cases hfit : tag > 0xFFFFFFFF >>> 8
  · rw [if_pos hfit]
    constructor
    · rintro ⟨t, ht⟩
      cases ht
    · rintro ⟨k, hk, hle⟩
      cases hk
      exact absurd hfit (hfits.mpr (by omega))
  · rw [if_neg hfit]
    exact iff_of_true ⟨_, rfl⟩ ⟨1, rfl, Nat.succ_le_succ (hfits.mp hfit)⟩

/-- The rest of a tag is read if it ends and four bytes are enough.  The induction carries the
number `c` of bytes that the tag has so far. -/
lemma decodeTagTail_isOk_iff {c tag offset : Nat} {b : UInt8} {rest : Bytes} (hc : 1 ≤ c)
    (hlow : 256 ^ (c - 1) ≤ tag) (hhigh : tag < 256 ^ c) :
    (∃ t, decodeTagTail tag offset b rest = .ok t) ↔
      ∃ k, tailLength? (b :: rest) = some k ∧ c + k ≤ 4 := by
  have hfits := fits_iff hlow hhigh
  induction rest generalizing c tag offset b with
  | nil =>
    by_cases hb : b &&& 0x80 = 0x80
    · rw [tailLength?, if_pos hb, decodeTagTail, if_pos hb]
      constructor
      · rintro ⟨t, ht⟩
        cases ht
      · rintro ⟨k, hk, -⟩
        cases hk
    · exact decodeTagTail_last_iff hb [] hfits
  | cons b' rest ih =>
    by_cases hb : b &&& 0x80 = 0x80
    · rw [tailLength?, if_pos hb, decodeTagTail, if_pos hb]
      by_cases hfit : tag > 0xFFFFFFFF >>> 8
      · rw [if_pos hfit]
        constructor
        · rintro ⟨t, ht⟩
          cases ht
        · rintro ⟨k, hk, hle⟩
          obtain ⟨j, hj, rfl⟩ := Option.map_eq_some_iff.mp hk
          exact absurd hfit (hfits.mpr (by omega))
      · rw [if_neg hfit]
        obtain ⟨hlow', hhigh'⟩ := append_byte hc hlow hhigh b
        refine (ih (Nat.le_add_left 1 c) hlow' hhigh' (fits_iff hlow' hhigh')).trans ?_
        constructor
        · rintro ⟨k, hk, hle⟩
          exact ⟨k + 1, by rw [hk]; rfl, by omega⟩
        · rintro ⟨k, hk, hle⟩
          obtain ⟨j, hj, rfl⟩ := Option.map_eq_some_iff.mp hk
          exact ⟨j, hj, by omega⟩
    · exact decodeTagTail_last_iff hb _ hfits

/-- Where the rest of a tag is read, all of it is. -/
lemma tailLength?_of_ok {tag offset : Nat} {b : UInt8} {rest : Bytes} {t : DecodedTag}
    (h : decodeTagTail tag offset b rest = .ok t) :
    tailLength? (b :: rest) = some (t.encodedLen - offset + 1) := by
  induction rest generalizing tag offset b with
  | nil =>
    by_cases hb : b &&& 0x80 = 0x80
    · rw [decodeTagTail, if_pos hb] at h
      cases h
    · rw [decodeTagTail_last hb] at h
      split at h
      · cases h
      · cases h
        rw [tailLength?, if_neg hb, Nat.sub_self]
  | cons b' rest ih =>
    by_cases hb : b &&& 0x80 = 0x80
    · rw [decodeTagTail, if_pos hb] at h
      split at h
      · cases h
      · have hmore := (decodeTagTail_local h []).1
        rw [tailLength?, if_pos hb, ih h, Option.map_some]
        congr 1
        omega
    · rw [decodeTagTail_last hb] at h
      split at h
      · cases h
      · cases h
        rw [tailLength?, if_neg hb, Nat.sub_self]

/-- A tag of one byte. -/
lemma decodeTag_single {first : UInt8} (hfirst : ¬ first &&& 0x1F = 0x1F) (rest : Bytes) :
    decodeTag (first :: rest) = .ok ⟨first.toNat, 1⟩ := by
  unfold decodeTag
  exact if_neg hfirst

/-- An encoded tag denotes the tag. -/
lemma ofBE_encodeTag (tag : Nat) : ofBE (encodeTag tag) = tag := by
  rcases Nat.eq_zero_or_pos tag with rfl | hpos
  · rfl
  · rw [encodeTag_eq_toBE hpos, ofBE_toBE, Nat.mod_eq_of_lt (lt_pow_byteCount tag)]

lemma tagLength?_of_ok {encoded : Bytes} {t : DecodedTag} (h : decodeTag encoded = .ok t) :
    tagLength? encoded = some t.encodedLen := by
  cases encoded with
  | nil => cases h
  | cons first rest =>
    rw [tagLength?]
    by_cases hfirst : first &&& 0x1F = 0x1F
    · rw [if_pos hfirst]
      cases rest with
      | nil =>
        rw [decodeTag, if_pos hfirst] at h
        cases h
      | cons b rest =>
        rw [decodeTag, if_pos hfirst] at h
        have hmore := (decodeTagTail_local h []).1
        rw [tailLength?_of_ok h, Option.map_some]
        congr 1
        omega
    · rw [decodeTag_single hfirst] at h
      cases h
      rw [if_neg hfirst]

/-- A tag is read exactly if it ends and has at most four bytes. -/
lemma decodeTag_isOk_iff (encoded : Bytes) :
    (∃ t, decodeTag encoded = .ok t) ↔ ∃ n, tagLength? encoded = some n ∧ n ≤ 4 := by
  cases encoded with
  | nil =>
    constructor
    · rintro ⟨t, ht⟩
      cases ht
    · rintro ⟨n, hn, -⟩
      cases hn
  | cons first rest =>
    rw [tagLength?]
    by_cases hfirst : first &&& 0x1F = 0x1F
    · rw [if_pos hfirst]
      cases rest with
      | nil =>
        rw [decodeTag, if_pos hfirst]
        constructor
        · rintro ⟨t, ht⟩
          cases ht
        · rintro ⟨n, hn, -⟩
          cases hn
      | cons b rest =>
        have hpos : 256 ^ (1 - 1) ≤ first.toNat := by
          refine Nat.pos_of_ne_zero fun hzero => ?_
          obtain rfl : first = 0 := UInt8.toNat_inj.mp hzero
          exact absurd hfirst (by decide)
        rw [decodeTag, if_pos hfirst, decodeTagTail_isOk_iff le_rfl hpos first.toNat_lt]
        constructor
        · rintro ⟨k, hk, hle⟩
          exact ⟨k + 1, by rw [hk]; rfl, by omega⟩
        · rintro ⟨n, hn, hle⟩
          obtain ⟨k, hk, rfl⟩ := Option.map_eq_some_iff.mp hn
          exact ⟨k, hk, by omega⟩
    · rw [decodeTag_single hfirst, if_neg hfirst]
      exact iff_of_true ⟨_, rfl⟩ ⟨1, rfl, by decide⟩

theorem tagCodec : TagCodec where
  decoded := by
    intro encoded t h
    have hlen := tagLength?_of_ok h
    obtain ⟨n, hn, hle⟩ := (decodeTag_isOk_iff encoded).mp ⟨t, h⟩
    obtain rfl : t.encodedLen = n := Option.some.inj (hlen.symm.trans hn)
    have htag : IsTag t.value := ⟨encoded, t, h, rfl⟩
    refine ⟨hlen, hle, encodeTag_decodeTag h, ?_, htag.lt⟩
    rw [← encodeTag_decodeTag h, ofBE_encodeTag]
  fails := by
    intro encoded
    have hok := decodeTag_isOk_iff encoded
    have hpanic := decodeTag_ne_panic encoded
    unfold Truncated TooLong
    cases hdecode : decodeTag encoded with
    | ok t =>
      rw [hdecode] at hok
      obtain ⟨n, hn, hle⟩ := hok.mp ⟨t, rfl⟩
      constructor
      · rintro ⟨e, he⟩
        cases he
      · rintro (hnone | ⟨m, hm, hlong⟩)
        · rw [hn] at hnone
          cases hnone
        · rw [hn] at hm
          cases hm
          exact absurd hlong (Nat.not_lt_of_le hle)
    | err e =>
      rw [hdecode] at hok
      refine iff_of_true ⟨e, rfl⟩ ?_
      cases hlength : tagLength? encoded with
      | none => exact Or.inl rfl
      | some n =>
        refine Or.inr ⟨n, rfl, Nat.lt_of_not_le fun hle => ?_⟩
        obtain ⟨t, ht⟩ := hok.mpr ⟨n, hlength, hle⟩
        cases ht
    | panic => exact absurd hdecode hpanic
  total := decodeTag_ne_panic
  encoded := fun tag rest h => decodeTag_encodeTag h rest

end Tlv

/-! ## Padding -/

namespace Iso9797

/-- Everything the scan steps over is zero. -/
lemma skipZeros_spec (data : Bytes) (n : Nat) :
    skipZeros data n ≤ n ∧ ∀ j, skipZeros data n ≤ j → j < n → data[j]? = some 0x00 := by
  induction n with
  | zero => exact ⟨le_rfl, fun j _ hj => absurd hj (Nat.not_lt_zero j)⟩
  | succ n ih =>
    rw [skipZeros]
    by_cases hzero : data[n]? = some 0x00
    · rw [if_pos hzero]
      refine ⟨Nat.le_succ_of_le ih.1, fun j hle hlt => ?_⟩
      rcases Nat.lt_succ_iff_lt_or_eq.mp hlt with hlt | rfl
      · exact ih.2 j hle hlt
      · exact hzero
    · rw [if_neg hzero]
      exact ⟨le_rfl, fun j hle hlt => absurd hlt (Nat.not_lt_of_le hle)⟩

/-- A string with a marker and nothing but zeros behind it. -/
lemma eq_marked {data : Bytes} {m : Nat} (hmark : data[m]? = some 0x80)
    (hzeros : ∀ j, m + 1 ≤ j → j < data.length → data[j]? = some 0x00) :
    data = data.take m ++ [0x80] ++ List.replicate (data.length - (m + 1)) 0x00 := by
  have hlt : m < data.length := (List.getElem?_eq_some_iff.mp hmark).1
  have htail : data.drop (m + 1) = List.replicate (data.length - (m + 1)) 0x00 := by
    refine List.eq_replicate_iff.mpr ⟨List.length_drop, fun b hb => ?_⟩
    obtain ⟨j, hj⟩ := List.getElem?_of_mem hb
    have hjlt := (List.getElem?_eq_some_iff.mp hj).1
    rw [List.length_drop] at hjlt
    rw [List.getElem?_drop, hzeros (m + 1 + j) (Nat.le_add_right _ _) (by omega)] at hj
    exact (Option.some.inj hj).symm
  rw [← htail, List.append_assoc, List.singleton_append]
  have hcons : data.drop m = 0x80 :: data.drop (m + 1) := by
    rw [List.drop_eq_getElem_cons hlt]
    congr 1
    exact Option.some.inj ((List.getElem?_eq_getElem hlt).symm.trans hmark)
  rw [← hcons, List.take_append_drop]

/-- The padding of a whole number of blocks is the one that `pad` adds. -/
lemma padLen_eq {m k b : Nat} (hpos : 0 < k) (hle : k ≤ b) (hmod : (m + k) % b = 0) :
    b - m % b = k := by
  have hb : 0 < b := lt_of_lt_of_le hpos hle
  have hrem := Nat.mod_lt m hb
  have hsum : (m % b + k) % b = 0 := by rw [Nat.mod_add_mod, hmod]
  obtain ⟨t, ht⟩ := Nat.dvd_of_mod_eq_zero hsum
  have hone : t = 1 := by
    rcases t with _ | _ | t
    · rw [Nat.mul_zero] at ht
      omega
    · rfl
    · have htwo : b * 2 ≤ b * (t + 1 + 1) := Nat.mul_le_mul_left b (by omega)
      omega
  rw [hone, Nat.mul_one] at ht
  omega

/-- **What `unpad` accepts is padded.** -/
lemma pad_of_unpad {x d : Bytes} {blockSize : Nat} (hb : 0 < blockSize)
    (h : unpad x blockSize = .ok d) : pad d blockSize = .ok x := by
  have hne : blockSize ≠ 0 := Nat.pos_iff_ne_zero.mp hb
  unfold unpad at h
  split at h
  · cases h
  rename_i haligned
  have hmod : x.length % blockSize = 0 := by
    by_contra hmod
    exact haligned ⟨hne, Or.inr hmod⟩
  dsimp only at h
  split at h
  · cases h
  rename_i hmarked
  obtain ⟨hi, hmark⟩ := not_or.mp hmarked
  split at h
  · cases h
  rename_i hshort
  have hle : x.length - (skipZeros x x.length - 1) ≤ blockSize := by
    by_contra hlt
    exact hshort ⟨hne, Nat.lt_of_not_le hlt⟩
  obtain ⟨hscan, hzeros⟩ := skipZeros_spec x x.length
  obtain ⟨m, hm⟩ : ∃ m, skipZeros x x.length = m + 1 := ⟨_, (Nat.succ_pred hi).symm⟩
  rw [hm] at hscan hzeros hle hmark h
  rw [Nat.add_sub_cancel] at hle hmark h
  obtain rfl := (Outcome.ok.inj h).symm
  have hlen : (x.take m).length = m := by
    rw [List.length_take]
    omega
  rw [pad_eq_ok hb, hlen]
  have hpad : blockSize - m % blockSize = x.length - m := by
    refine padLen_eq (by omega) hle ?_
    rw [Nat.add_sub_cancel' (by omega), hmod]
  rw [hpad, show x.length - m - 1 = x.length - (m + 1) by omega]
  exact eq_marked (not_not.mp hmark) hzeros

/-- Padding method 2 is exact. -/
structure PaddingExact : Prop where
  /-- Padded data are a positive number of whole blocks. -/
  length : ∀ b d p, 0 < b → pad d b = .ok p → 0 < p.length ∧ b ∣ p.length
  /-- Every string can be padded, and its padding is taken off again. -/
  unpad_pad : ∀ b d, 0 < b → ∃ p, pad d b = .ok p ∧ unpad p b = .ok d
  /-- Nothing but padded data is accepted. -/
  pad_unpad : ∀ b x d, 0 < b → unpad x b = .ok d → pad d b = .ok x

theorem paddingExact : PaddingExact where
  length := by
    intro b d p hb h
    obtain ⟨hmod, hlt, -⟩ := length_pad hb h
    exact ⟨by omega, Nat.dvd_of_mod_eq_zero hmod⟩
  unpad_pad := by
    intro b d hb
    obtain ⟨p, hp⟩ := pad_isOk d hb
    exact ⟨p, hp, Iso9797.unpad_pad hb hp⟩
  pad_unpad := fun b x d hb h => pad_of_unpad hb h

end Iso9797

end Dmrtd
