import IdentityCrates.Dmrtd.Properties.FileReading

/-!
# READ BINARY beyond the 15-bit offsets

A chip answers the odd READ BINARY with the bytes of the file as they are, or with these bytes in a
discretionary-data object (`DO'53'`, or `DO'73'` for a constructed template).  `read_binary_ext`
admits both and unwraps the object "when present".  What it looks at to tell the two apart is the
first byte of the answer, and in a raw answer that byte belongs to the file.

A wrapped answer always gives the chunk that was wrapped.  A raw answer gives the chunk exactly when
the chunk is empty or the file has neither `53` nor `73` at the offset: otherwise file data is taken
for the header of an object, and what is returned, if anything, is shorter than the chunk
(`unwrapDiscretionary_of_marker`).
-/

namespace Dmrtd

open Rust Octets

namespace MrtdApi

/-! ## The two shapes of an answer -/

/-- A byte that `read_binary_ext` takes for the tag of a discretionary-data object. -/
def IsDiscretionaryTag (b : UInt8) : Prop := b = 0x53 ∨ b = 0x73

instance (b : UInt8) : Decidable (IsDiscretionaryTag b) :=
  inferInstanceAs (Decidable (b = 0x53 ∨ b = 0x73))

/-- The response data of a chip that answers with the bytes of the chunk as they are. -/
def AnswersRaw (chunk : Bytes) (r : ResponseApdu) : Prop := r.data.getD [] = chunk

/-- The response data of a chip that wraps the chunk in `DO'53'` or `DO'73'`. -/
def AnswersWrapped (chunk : Bytes) (r : ResponseApdu) : Prop :=
  ∃ tag, IsDiscretionaryTag tag ∧
    (Tlv.encode tag.toNat chunk : Outcome TlvError Bytes) = .ok (r.data.getD [])

/-- An answer that does not begin with one of the two tags is returned as it is. -/
lemma unwrapDiscretionary_of_not_marker {data : Bytes}
    (h : ∀ b ∈ data.head?, ¬ IsDiscretionaryTag b) : unwrapDiscretionary data = .ok data := by
  cases data with
  | nil => rfl
  | cons tag rest =>
    have htag : ¬ (tag = 0x53 ∨ tag = 0x73) := h tag rfl
    rw [unwrapDiscretionary, if_neg htag]

/-- An answer that begins with one of the two tags loses its first bytes, or is refused. -/
lemma unwrapDiscretionary_of_marker {data value : Bytes} {b : UInt8} (hb : b ∈ data.head?)
    (hmark : IsDiscretionaryTag b) (h : unwrapDiscretionary data = .ok value) :
    value.length < data.length := by
  cases data with
  | nil => exact absurd hb (by simp)
  | cons tag rest =>
    obtain rfl : tag = b := by simpa using hb
    have htag : tag = 0x53 ∨ tag = 0x73 := hmark
    rw [unwrapDiscretionary, if_pos htag] at h
    obtain ⟨tv, hdec, rfl⟩ := Outcome.map_eq_ok.mp h
    rw [Outcome.mapErr_eq_ok] at hdec
    obtain ⟨hdr, tail, hsplit, hhdr, -⟩ := Tlv.decode_sound hdec
    rw [hsplit]
    simp only [List.length_append]
    omega

/-- A wrapped answer is unwrapped to what the chip wrapped. -/
lemma AnswersWrapped.unwrap {chunk : Bytes} {r : ResponseApdu} (h : AnswersWrapped chunk r) :
    unwrapDiscretionary (r.data.getD []) = .ok chunk := by
  obtain ⟨tag, hmark, henc⟩ := h
  have hmark' : tag = 0x53 ∨ tag = 0x73 := hmark
  have hsingle : Tlv.IsSingleByte tag.toNat := by
    rcases hmark' with rfl | rfl <;> decide
  have hdec := Tlv.decode_encode hsingle henc []
  rw [List.append_nil] at hdec
  obtain ⟨l, -, hdata⟩ := Tlv.encode_eq_ok.mp henc
  rw [Tlv.encodeTag_of_lt hsingle.1, UInt8.ofNat_toNat, List.singleton_append] at hdata
  rw [hdata] at hdec ⊢
  simp only [List.cons_append] at hdec ⊢
  rw [unwrapDiscretionary, if_pos hmark', hdec]
  rfl

/-- A raw answer is returned whole exactly when it does not begin with one of the two tags. -/
lemma unwrapDiscretionary_eq_self_iff {data : Bytes} :
    unwrapDiscretionary data = .ok data ↔ ∀ b ∈ data.head?, ¬ IsDiscretionaryTag b := by
  constructor
  · intro h b hb hmark
    exact Nat.lt_irrefl _ (unwrapDiscretionary_of_marker hb hmark h)
  · intro h
    exact unwrapDiscretionary_of_not_marker h

/-! ## Reading at an offset -/

variable {τ : Type} [Transceiver τ]

/-- The exchange of `read_binary_ext`: the command with the offset in its `DO'54'`, and the answer
of the chip, through secure messaging when there is a session. -/
def extendedExchange (offset ne : Nat) : Proc (MrtdApi τ) MrtdApiError ResponseApdu := do
  let offsetDo ← Proc.lift (Tlv.encode 0x54 (offsetBytes offset))
  send Cla.noSm Ins.readBinaryExt 0x00 0x00 (some offsetDo) ne

/-- After the exchange only the unwrapping is left. -/
lemma readBinaryExt_of_exchange {offset ne : Nat} {api api' : MrtdApi τ} {r : ResponseApdu}
    (h : extendedExchange offset ne api = (.ok r, api')) :
    readBinaryExt offset ne api = (unwrapDiscretionary (r.data.getD []), api') := by
  rw [extendedExchange] at h
  obtain ⟨offsetDo, api₁, henc, hsend⟩ := Proc.bind_eq_ok.mp h
  rw [readBinaryExt, Proc.bind_apply_ok henc, Proc.bind_apply_ok hsend, Proc.lift_apply]

/-- The first byte of a chunk of the file. -/
lemma head?_chunk (file : Bytes) (offset n : Nat) :
    ((file.drop offset).take n).head? = if n = 0 then none else file[offset]? := by
  rw [List.head?_take, List.head?_drop]

/-- **Reading beyond the 15-bit offsets.**  Whatever the file, the offset and the number of bytes
the chip returns, and whether or not the session protects the exchange: when the answer is the
chunk of the file at the offset, raw or wrapped in a discretionary-data object, that chunk is what
`read_binary_ext` returns if and only if the chip wrapped it, or it is empty, or the byte of the
file at the offset is neither `53` nor `73`. -/
theorem readBinaryExt_eq_chunk_iff {file : Bytes} {offset ne n : Nat} {api api' : MrtdApi τ}
    {r : ResponseApdu} (hexchange : extendedExchange offset ne api = (.ok r, api'))
    (hanswer : AnswersRaw ((file.drop offset).take n) r ∨
      AnswersWrapped ((file.drop offset).take n) r) :
    readBinaryExt offset ne api = (.ok ((file.drop offset).take n), api') ↔
      AnswersWrapped ((file.drop offset).take n) r ∨ n = 0 ∨
        ∀ b ∈ file[offset]?, ¬ IsDiscretionaryTag b := by
  rw [readBinaryExt_of_exchange hexchange, Prod.mk.injEq, and_iff_left rfl]
  by_cases hwrapped : AnswersWrapped ((file.drop offset).take n) r
  · simp only [hwrapped, true_or, iff_true]
    exact hwrapped.unwrap
  · have hraw : r.data.getD [] = (file.drop offset).take n := hanswer.resolve_right hwrapped
    rw [hraw, unwrapDiscretionary_eq_self_iff, head?_chunk, or_iff_right hwrapped]
    by_cases hn : n = 0
    · simp [hn]
    · simp [hn]

/-- A file of zero bytes up to the offset 0x8000, with `53 01 AA BB` behind them. -/
def markedFile : Bytes := List.replicate 0x8000 0 ++ [0x53, 0x01, 0xAA, 0xBB]

/-- The four bytes at that offset. -/
lemma chunk_markedFile : (markedFile.drop 0x8000).take 4 = [0x53, 0x01, 0xAA, 0xBB] := by
  rw [markedFile, drop_append_of_length (List.length_replicate)]
  rfl

/-- From a chip that wraps them the four bytes are read as they stand in the file. -/
theorem readBinaryExt_eq_chunk_wrapped :
    @readBinaryExt Unit (Transceiver.constant [0x53, 0x04, 0x53, 0x01, 0xAA, 0xBB, 0x90, 0x00])
      0x8000 4 ⟨(), none⟩ = (.ok ((markedFile.drop 0x8000).take 4), ⟨(), none⟩) := by
  have hwrapped : AnswersWrapped ((markedFile.drop 0x8000).take 4)
      ⟨StatusWord.success, some [0x53, 0x04, 0x53, 0x01, 0xAA, 0xBB]⟩ := by
    rw [chunk_markedFile]
    exact ⟨0x53, .inl rfl, rfl⟩
  refine (@readBinaryExt_eq_chunk_iff Unit (Transceiver.constant _) markedFile 0x8000 4 4 _ _ _
    ?_ (.inr hwrapped)).mpr (.inl hwrapped)
  exact Prod.ext (by decide +kernel) rfl

/-- From a chip that answers with the bytes as they are, three of the four bytes are lost: the first
two are taken for the header of a one-byte object. -/
theorem readBinaryExt_strips_content :
    @extendedExchange Unit (Transceiver.constant [0x53, 0x01, 0xAA, 0xBB, 0x90, 0x00])
        0x8000 4 ⟨(), none⟩ =
      (.ok ⟨StatusWord.success, some [0x53, 0x01, 0xAA, 0xBB]⟩, ⟨(), none⟩) ∧
    AnswersRaw ((markedFile.drop 0x8000).take 4)
      ⟨StatusWord.success, some [0x53, 0x01, 0xAA, 0xBB]⟩ ∧
    @readBinaryExt Unit (Transceiver.constant [0x53, 0x01, 0xAA, 0xBB, 0x90, 0x00])
        0x8000 4 ⟨(), none⟩ = (.ok [0xAA], ⟨(), none⟩) ∧
    (markedFile.drop 0x8000).take 4 ≠ [0xAA] := by
  refine ⟨Prod.ext (by decide +kernel) rfl, ?_, Prod.ext (by decide +kernel) rfl, ?_⟩
  · rw [chunk_markedFile]
    rfl
  · rw [chunk_markedFile]
    decide

end MrtdApi

end Dmrtd
