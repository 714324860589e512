import IdentityCrates.Dmrtd.Lds.Tlv
import IdentityCrates.Lib.Loop

/-!
# The slices of the BER-TLV decoder

The decoders of `tlv.rs` once more, with the positions that they index and slice at, where one that
is out of range is a panic, and with the end of a value as a sum that may overflow.  Each position
is covered by a check of a length in front of it, so these are the functions that `Tlv.decode` is
made of (`Tlv.Checked.decode_eq`), and none of them panics.

A data object is therefore a record that a loop can read one behind the other (`Tlv.format`).
-/

namespace Dmrtd

open Rust Octets

namespace Tlv

namespace Checked

/-- The `while` loop of `Tlv::decode_tag`, in front of whose turns `b` has been read. -/
def decodeTagLoop (encodedTag : Bytes) (tag offset : Nat) (b : UInt8) :
    Outcome TlvError DecodedTag :=
  if b &&& 0x80 = 0x80 then
    if offset ≥ encodedTag.length then .err .invalidTag
    else if tag > 0xFFFFFFFF >>> 8 then .err .invalidTag
    else do
      let b' ← index encodedTag offset
      decodeTagLoop encodedTag (tag <<< 8 ||| b.toNat) (offset + 1) b'
  else if tag > 0xFFFFFFFF >>> 8 then .err .invalidTag
  else return ⟨tag <<< 8 ||| b.toNat, offset⟩
termination_by encodedTag.length - offset

/-- `Tlv::decode_tag`. -/
def decodeTag (encodedTag : Bytes) : Outcome TlvError DecodedTag :=
  if encodedTag.isEmpty then .err .emptyTag
  else do
    let firstByte ← index encodedTag 0
    if firstByte &&& 0x1F = 0x1F then
      if 1 ≥ encodedTag.length then .err .invalidTag
      else do
        let b ← index encodedTag 1
        decodeTagLoop encodedTag firstByte.toNat 2 b
    else return ⟨firstByte.toNat, 1⟩

/-- `Tlv::decode_length`. -/
def decodeLength (encodedLength : Bytes) : Outcome TlvError DecodedLen :=
  if encodedLength.isEmpty then .err .emptyLength
  else do
    let first ← index encodedLength 0
    if first &&& 0x80 = 0x80 then
      let numLenBytes := (first &&& 0x7F).toNat
      if numLenBytes = 0 then .err .indefiniteLength
      else if numLenBytes > 3 then .err .lengthTooBig
      else
        let totalBytes := 1 + numLenBytes
        if totalBytes > encodedLength.length then .err .invalidLength
        else do
          let bytes ← slice encodedLength 1 totalBytes
          return ⟨bytes.foldl (fun length byte => length * 0x100 + byte.toNat) 0, totalBytes⟩
    else return ⟨first.toNat, 1⟩

/-- `Tlv::decode_tag_and_length`. -/
def decodeTagAndLength (encoded : Bytes) : Outcome TlvError DecodedTl := do
  let tag ← decodeTag encoded
  let rest ← sliceFrom encoded tag.encodedLen
  let len ← decodeLength rest
  return ⟨tag, len, tag.encodedLen + len.encodedLen⟩

/-- `Tlv::decode`.  The end of the value is the one sum that is formed before it is compared to the
length of the slice; it must fit a `usize`, of 32 bits at least. -/
def decode (encodedTlv : Bytes) : Outcome TlvError DecodedTv := do
  let tl ← decodeTagAndLength encodedTlv
  let fin ← checkedAdd 32 tl.encodedLen tl.length.value
  if fin > encodedTlv.length then .err .notEnoughData
  else do
    let data ← slice encodedTlv tl.encodedLen fin
    return ⟨tl.tag, data, fin⟩

/-! ## Every position is in range -/

/-- The bytes behind the offset, taken one after the other, are those that the loop indexes. -/
lemma decodeTagLoop_eq (encodedTag : Bytes) (tag offset : Nat) (b : UInt8) :
    decodeTagLoop encodedTag tag offset b =
      decodeTagTail tag offset b (encodedTag.drop offset) := by
  induction hk : encodedTag.length - offset generalizing tag offset b with
  | zero =>
    have hend : encodedTag.length ≤ offset := by omega
    rw [decodeTagLoop, List.drop_of_length_le hend, decodeTagTail]
    simp only [ge_iff_le, hend, if_true, Outcome.pure_eq]
  | succ k ih =>
    have hlt : offset < encodedTag.length := by omega
    have hindex : (index encodedTag offset : Outcome TlvError UInt8) = .ok encodedTag[offset] :=
      index_eq (List.getElem?_eq_getElem hlt)
    rw [decodeTagLoop, List.drop_eq_getElem_cons hlt, decodeTagTail]
    simp only [ge_iff_le, if_neg (not_le.mpr hlt), hindex, Outcome.ok_bind, Outcome.pure_eq]
    rw [ih _ _ _ (by omega)]

lemma decodeTag_eq (bytes : Bytes) : decodeTag bytes = Tlv.decodeTag bytes := by
  rcases bytes with _ | ⟨x, _ | ⟨b, bytes⟩⟩
  · rfl
  · rfl
  · simp only [decodeTag, Tlv.decodeTag, decodeTagLoop_eq]
    rfl

lemma decodeLength_eq (bytes : Bytes) : decodeLength bytes = Tlv.decodeLength bytes := by
  rcases bytes with _ | ⟨first, rest⟩
  · rfl
  have hfirst : (index (first :: rest) 0 : Outcome TlvError UInt8) = .ok first := rfl
  simp only [decodeLength, Tlv.decodeLength, List.isEmpty_cons, Bool.false_eq_true, if_false, hfirst,
    Outcome.ok_bind, Outcome.pure_eq]
  split
  · split
    · rfl
    split
    · rfl
    split
    · rfl
    · rename_i hlen
      rw [slice_eq (Nat.le_add_right _ _) (not_lt.mp hlen), Nat.add_sub_cancel_left]
      rfl
  · rfl

lemma decodeTagAndLength_eq (bytes : Bytes) :
    decodeTagAndLength bytes = Tlv.decodeTagAndLength bytes := by
  rw [decodeTagAndLength, Tlv.decodeTagAndLength, decodeTag_eq]
  cases htag : Tlv.decodeTag bytes with
  | ok tag =>
    have hle := (decodeTag_local htag []).2.1
    simp only [Outcome.ok_bind, sliceFrom_eq hle, decodeLength_eq]
  | err e => rfl
  | panic => rfl

/-- The decoder of the source is the one that takes the parts of its input without a check. -/
theorem decode_eq (bytes : Bytes) : decode bytes = Tlv.decode bytes := by
  rw [decode, Tlv.decode, decodeTagAndLength_eq]
  cases htl : Tlv.decodeTagAndLength bytes with
  | ok tl =>
    obtain ⟨hheader, hvalue⟩ := decodeTagAndLength_bounds htl
    have hend : tl.encodedLen + tl.length.value < 2 ^ 32 := by omega
    simp only [Outcome.ok_bind, checkedAdd_eq hend]
    split
    · rfl
    · rename_i hfit
      rw [slice_eq (Nat.le_add_right _ _) (not_lt.mp hfit), Outcome.ok_bind, List.drop_take]
      rfl
  | err e => rfl
  | panic => rfl

lemma decode_ne_panic (bytes : Bytes) : decode bytes ≠ .panic := by
  rw [decode_eq]
  exact Tlv.decode_ne_panic bytes

/-- An object that decodes is a header of two bytes at least, and the value is the slice of the
input that is behind it. -/
theorem decode_bounds {bytes : Bytes} {tv : DecodedTv} (h : decode bytes = .ok tv) :
    2 ≤ tv.encodedLen ∧ tv.encodedLen ≤ bytes.length ∧
      ∃ tl, decodeTagAndLength bytes = .ok tl ∧ tv.tag = tl.tag ∧ 2 ≤ tl.encodedLen ∧
        slice bytes tl.encodedLen tv.encodedLen = (.ok tv.value : Outcome TlvError Bytes) := by
  have hdecode := (decode_eq bytes).symm.trans h
  obtain ⟨htwo, hle, -⟩ := decode_local hdecode []
  obtain ⟨tl, htl, hfit, rfl⟩ := decode_eq_ok.mp hdecode
  refine ⟨htwo, hle, tl, (decodeTagAndLength_eq bytes).trans htl, rfl,
    (decodeTagAndLength_local htl []).1, ?_⟩
  rw [slice_eq (Nat.le_add_right _ _) hfit, List.drop_take]

end Checked

/-- A data object, as a record that takes up its header and its value. -/
def format : RecordFormat UInt8 TlvError DecodedTv where
  decode := Checked.decode
  size := DecodedTv.encodedLen
  size_pos h := lt_of_lt_of_le Nat.two_pos (Checked.decode_bounds h).1
  size_le h := (Checked.decode_bounds h).2.1
  decode_take h := by
    rw [Checked.decode_eq] at h ⊢
    have hlocal := (decode_local h []).2.2
    rwa [List.append_nil] at hlocal
  decode_ne_panic := Checked.decode_ne_panic

end Tlv

end Dmrtd
