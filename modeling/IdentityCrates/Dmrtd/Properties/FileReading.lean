import IdentityCrates.Dmrtd.Proto.MrtdApi

/-!
# Reading an elementary file

`read_file_by_sfi` learns the length of a file from its first bytes and then fetches the rest chunk
by chunk, with one command form up to offset `0x7FFF` and another beyond.  Two things are shown.

Against *any* transport, what is returned has exactly the declared length, at most 512 KiB: a chip
that declares more, or stops short with an empty chunk, makes the read fail (`Fetched` follows the
loop through every chunk).

Against a *conforming* chip (`ConformingReads`), which answers every READ BINARY with between one
and `ne` bytes of the file at the requested offset, the result is the file's TLV object, byte for
byte. Conformance is stated of the commands as the chip sees them and of `transceive_cmd`, so it
covers a plain transport and a secure messaging session alike.
-/

namespace Dmrtd

open Rust Octets

/-! ## What a chip is asked -/

/-- A READ BINARY that selects the file `sfi` and reads it at offset P2. -/
structure SelectsAndReads (sfi : UInt8) (cmd : CommandApdu) : Prop where
  ins : cmd.ins = Ins.readBinary
  p1 : cmd.p1 = 0x80 ||| (sfi &&& 0x1F)

/-- A READ BINARY of the current file at `offset`: the even instruction with a 15-bit offset in
P1-P2, or the odd one with the offset in a `DO'54'`. -/
inductive ReadsAt (cmd : CommandApdu) (offset : Nat) : Prop
  | even (hins : cmd.ins = Ins.readBinary) (hp1 : cmd.p1 < 0x80)
      (hoffset : offset = cmd.p1.toNat * 256 + cmd.p2.toNat)
  | odd {tv : DecodedTv} (hins : cmd.ins = Ins.readBinaryExt) (hp1 : cmd.p1 = 0) (hp2 : cmd.p2 = 0)
      (htv : Tlv.decode cmd.body = .ok tv) (htag : tv.tag.value = 0x54)
      (hwhole : tv.encodedLen = cmd.body.length) (hoffset : offset = ofBE tv.value)

/-- How a chip presents the bytes it read: in a `DO'53'` to the odd instruction. -/
def Presents (cmd : CommandApdu) (payload answer : Bytes) : Prop :=
  if cmd.ins = Ins.readBinaryExt then
    (Tlv.encode 0x53 payload : Outcome TlvError Bytes) = .ok answer
  else answer = payload

variable {τ : Type} [Transceiver τ]

/-- A chip that holds `file` under `sfi` and answers READ BINARY with 9000 and between one and `ne`
bytes from the requested offset.  `Fresh` are the states in which the file can be selected and
`Current` those in which it is. -/
structure ConformingReads (file : Bytes) (sfi : UInt8) (Fresh Current : MrtdApi τ → Prop) : Prop where
  select : ∀ (api : MrtdApi τ) (cmd : CommandApdu), Fresh api → cmd.InLimits →
    SelectsAndReads sfi cmd → cmd.p2.toNat < file.length → 0 < cmd.ne →
    ∃ n api', 1 ≤ n ∧ n ≤ cmd.ne ∧ MrtdApi.transceiveCmd cmd api =
      (.ok ⟨StatusWord.success, some ((file.drop cmd.p2.toNat).take n)⟩, api') ∧ Current api'
  read : ∀ (api : MrtdApi τ) (cmd : CommandApdu) (offset : Nat), Current api → cmd.InLimits →
    ReadsAt cmd offset → offset < file.length → 0 < cmd.ne →
    ∃ n answer api', 1 ≤ n ∧ n ≤ cmd.ne ∧ Presents cmd ((file.drop offset).take n) answer ∧
      MrtdApi.transceiveCmd cmd api = (.ok ⟨StatusWord.success, some answer⟩, api') ∧ Current api'

namespace MrtdApi

/-- A command within limits is sent as it is. -/
lemma send_of_transceiveCmd {cla ins p1 p2 : UInt8} {data : Option Bytes} {ne : Nat}
    (hdata : (data.getD []).length ≤ 0xFFFF) (hne : ne ≤ 65536) {api api' : MrtdApi τ}
    {r : ResponseApdu}
    (h : transceiveCmd ⟨cla, ins, p1, p2, data, ne⟩ api = (.ok r, api')) :
    send cla ins p1 p2 data ne api = (.ok r, api') := by
  have hnew := CommandApdu.new_eq_ok.mpr
    ⟨rfl, (⟨hdata, hne⟩ : (CommandApdu.mk cla ins p1 p2 data ne).InLimits)⟩
  rw [send, hnew, Outcome.mapErr_ok, Proc.lift_ok_bind_apply, h]

/-! ## Any transport -/

/-- The chunks of the reading loop: from `data` in state `api`, successful non-empty reads lead to
`data'` in state `api'`. -/
inductive Fetched (totalLen : Nat) : Bytes → MrtdApi τ → Bytes → MrtdApi τ → Prop
  | refl (data : Bytes) (api : MrtdApi τ) : Fetched totalLen data api data api
  | chunk {data data' chunk : Bytes} {api api₁ api' : MrtdApi τ} (hlt : data.length < totalLen)
      (hread : readChunk totalLen data.length api = (.ok chunk, api₁)) (hne : chunk ≠ [])
      (hrest : Fetched totalLen (data ++ chunk) api₁ data' api') :
      Fetched totalLen data api data' api'

lemma readTail_of_ge {totalLen : Nat} {data : Bytes} (h : totalLen ≤ data.length)
    (api : MrtdApi τ) : readTail totalLen data api = (.ok data, api) := by
  rw [readTail, if_neg (by omega)]

lemma readTail_chunk {totalLen : Nat} {data chunk : Bytes} {api api' : MrtdApi τ}
    (hlt : data.length < totalLen)
    (hread : readChunk totalLen data.length api = (.ok chunk, api')) (hne : chunk ≠ []) :
    readTail totalLen data api = readTail totalLen (data ++ chunk) api' := by
  obtain ⟨b, tl, rfl⟩ := List.exists_cons_of_ne_nil hne
  rw [readTail, if_pos hlt, hread]

/-- An empty chunk before the end is a short read. -/
lemma readTail_empty {totalLen : Nat} {data : Bytes} {api api' : MrtdApi τ}
    (hlt : data.length < totalLen)
    (hread : readChunk totalLen data.length api = (.ok [], api')) :
    readTail totalLen data api = (.err (.response
      s!"short read: got {data.length} of {totalLen} declared bytes for file"), api') := by
  rw [readTail, if_pos hlt, hread]

/-- The loop goes on from wherever the chunks have led. -/
lemma Fetched.readTail_eq {totalLen : Nat} {data data' : Bytes} {api api' : MrtdApi τ}
    (h : Fetched totalLen data api data' api') :
    readTail totalLen data api = readTail totalLen data' api' := by
  induction h with
  | refl => rfl
  | chunk hlt hread hne _ ih => rw [readTail_chunk hlt hread hne, ih]

/-- The loop succeeds only with enough bytes, all of them fetched in non-empty chunks. -/
lemma fetched_of_readTail {totalLen : Nat} {data out : Bytes} {api api' : MrtdApi τ}
    (h : readTail totalLen data api = (.ok out, api')) :
    Fetched totalLen data api out api' ∧ totalLen ≤ out.length := by
  induction hn : totalLen - data.length using Nat.strongRecOn generalizing data api with
  | _ n ih =>
  subst hn
  by_cases hlt : data.length < totalLen
  · rcases hread : readChunk totalLen data.length api with ⟨chunk | e | _, api₁⟩
    · by_cases hne : chunk = []
      · subst hne
        rw [readTail_empty hlt hread] at h
        simp at h
      · have hdec : totalLen - (data ++ chunk).length < totalLen - data.length := by
          have hpos : 0 < chunk.length := List.length_pos_iff.mpr hne
          rw [List.length_append]
          omega
        rw [readTail_chunk hlt hread hne] at h
        obtain ⟨hrest, hlen⟩ := ih _ hdec h rfl
        exact ⟨.chunk hlt hread hne hrest, hlen⟩
    · rw [readTail, if_pos hlt, hread] at h
      simp at h
    · rw [readTail, if_pos hlt, hread] at h
      simp at h
  · rw [readTail_of_ge (by omega)] at h
    obtain ⟨hout, rfl⟩ := Prod.mk.inj h
    obtain rfl := Outcome.ok.inj hout
    exact ⟨.refl _ _, by omega⟩

/-- The header stage of `read_file_by_sfi`: the first chunk declares the total length. -/
structure Declares (sfi : UInt8) (api : MrtdApi τ) (first : Bytes) (totalLen : Nat)
    (api₁ : MrtdApi τ) : Prop where
  read : readBinaryBySfi sfi 0 headerChunkLen api = (.ok first, api₁)
  long : 2 ≤ first.length
  declared : ∃ tl, Tlv.decodeTagAndLength first = .ok tl ∧
    totalLen = tl.encodedLen + tl.length.value

lemma readFileBySfi_of_declares {sfi : UInt8} {api api₁ : MrtdApi τ} {first : Bytes}
    {totalLen : Nat} (h : Declares sfi api first totalLen api₁) :
    readFileBySfi sfi api =
      if totalLen > maxFileLen then (.err (.fileTooLarge totalLen), api₁)
      else (readTail totalLen first >>= fun data => pure (data.take totalLen)) api₁ := by
  obtain ⟨tl, htl, rfl⟩ := h.declared
  rw [readFileBySfi, Proc.bind_apply_ok h.read, if_neg (by have := h.long; omega), htl,
    Outcome.mapErr_ok, Proc.lift_ok_bind_apply]
  by_cases hmax : tl.encodedLen + tl.length.value > maxFileLen
  · rw [if_pos hmax, if_pos hmax]
    rfl
  · rw [if_neg hmax, if_neg hmax]

/-- A read that succeeds went through the header stage, fetched at least the declared number of
bytes in non-empty chunks, and returns that many. -/
lemma readFileBySfi_eq_ok {sfi : UInt8} {api api' : MrtdApi τ} {out : Bytes}
    (h : readFileBySfi sfi api = (.ok out, api')) :
    ∃ first totalLen api₁ data, Declares sfi api first totalLen api₁ ∧ totalLen ≤ maxFileLen ∧
      Fetched totalLen first api₁ data api' ∧ totalLen ≤ data.length ∧
      out = data.take totalLen := by
  have h' := h
  rw [readFileBySfi] at h'
  obtain ⟨first, api₁, hread, h'⟩ := Proc.bind_eq_ok.mp h'
  split at h'
  · simp at h'
  rename_i hlong
  obtain ⟨tl, _, hlift, -⟩ := Proc.bind_eq_ok.mp h'
  rw [Proc.lift_apply, Prod.mk.injEq, Outcome.mapErr_eq_ok] at hlift
  have hdecl : Declares sfi api first (tl.encodedLen + tl.length.value) api₁ :=
    ⟨hread, by omega, tl, hlift.1, rfl⟩
  rw [readFileBySfi_of_declares hdecl] at h
  split at h
  · simp at h
  · rename_i hmax
    obtain ⟨data, api₂, htail, hpure⟩ := Proc.bind_eq_ok.mp h
    obtain ⟨hfetched, hlen⟩ := fetched_of_readTail htail
    rw [Proc.pure_apply, Prod.mk.injEq, Outcome.ok.injEq] at hpure
    obtain ⟨rfl, rfl⟩ := hpure
    exact ⟨first, _, api₁, data, hdecl, by omega, hfetched, hlen, rfl⟩

/-! ## A conforming chip -/

/-- The offset in P1-P2, as the chip puts it together. -/
lemma offset_p1_p2 {offset : Nat} (h : offset ≤ 0x7FFF) :
    UInt8.ofNat (offset >>> 8) < 0x80 ∧
      offset = (UInt8.ofNat (offset >>> 8)).toNat * 256 + (UInt8.ofNat (offset &&& 0xFF)).toNat := by
  have hhi : (UInt8.ofNat (offset >>> 8)).toNat = offset / 256 := by
    rw [UInt8.toNat_ofNat', Nat.shiftRight_eq_div_pow]
    omega
  have hlo : (UInt8.ofNat (offset &&& 0xFF)).toNat = offset % 256 := by
    have hmask : offset &&& 0xFF = offset % 2 ^ 8 := Nat.and_two_pow_sub_one_eq_mod offset 8
    rw [UInt8.toNat_ofNat', hmask]
    omega
  refine ⟨?_, by rw [hhi, hlo]; omega⟩
  rw [UInt8.lt_iff_toNat_lt, hhi]
  change offset / 256 < 128
  omega

/-- The bytes of a `DO'54'` denote the offset. -/
lemma ofBE_offsetBytes {offset : Nat} (h : offset < 2 ^ 32) :
    ofBE (offsetBytes offset) = offset ∧ (offsetBytes offset).length ≤ 4 := by
  have hval : ofBE (toBE 4 offset) = offset := by
    rw [ofBE_toBE, Nat.mod_eq_of_lt (by omega)]
  refine ⟨?_, ?_⟩
  · rw [offsetBytes, ofBE_drop_of_le_findIdx _ (Nat.min_le_left _ _), hval]
  · rw [offsetBytes, List.length_drop, length_toBE]
    omega

section Conforming

variable {file : Bytes} {sfi : UInt8} {Fresh Current : MrtdApi τ → Prop}
  (hconf : ConformingReads file sfi Fresh Current)

include hconf

lemma readBinary_conforming {api : MrtdApi τ} (hcur : Current api) {offset ne : Nat}
    (hoff : offset ≤ 0x7FFF) (hfile : offset < file.length) (hpos : 0 < ne) (hne : ne ≤ 65536) :
    ∃ n api', 1 ≤ n ∧ readBinary offset ne api = (.ok ((file.drop offset).take n), api') ∧
      Current api' := by
  obtain ⟨hp1, hp⟩ := offset_p1_p2 hoff
  obtain ⟨n, answer, api', hn, -, hpresents, hsend, hcur'⟩ := hconf.read api
    ⟨Cla.noSm, Ins.readBinary, UInt8.ofNat (offset >>> 8), UInt8.ofNat (offset &&& 0xFF), none, ne⟩
    offset hcur ⟨Nat.zero_le _, hne⟩ (.even rfl hp1 hp) hfile hpos
  have hanswer : answer = (file.drop offset).take n := by
    rwa [Presents, if_neg (show ¬ Ins.readBinary = Ins.readBinaryExt by decide)] at hpresents
  subst hanswer
  refine ⟨n, api', hn, ?_, hcur'⟩
  rw [readBinary, if_neg (by omega),
    Proc.bind_apply_ok (send_of_transceiveCmd (Nat.zero_le _) hne hsend)]
  rfl

lemma readBinaryExt_conforming {api : MrtdApi τ} (hcur : Current api) {offset ne : Nat}
    (hoff : offset < 2 ^ 32) (hfile : offset < file.length) (hpos : 0 < ne) (hne : ne ≤ 65536) :
    ∃ n api', 1 ≤ n ∧ readBinaryExt offset ne api = (.ok ((file.drop offset).take n), api') ∧
      Current api' := by
  obtain ⟨hval, hlen⟩ := ofBE_offsetBytes hoff
  obtain ⟨offsetDo, henc⟩ : ∃ offsetDo,
      (Tlv.encode 0x54 (offsetBytes offset) : Outcome MrtdApiError Bytes) = .ok offsetDo :=
    Tlv.encode_isOk (by omega)
  have hdec := Tlv.decode_encode (by decide) henc []
  rw [List.append_nil] at hdec
  have hdolen : offsetDo.length ≤ 0xFFFF := by
    obtain ⟨l, hl, rfl⟩ := Tlv.encode_eq_ok.mp henc
    have hl4 := (Tlv.length_encodeLength_le hl).2
    rw [Tlv.encodeTag_of_lt (by decide)]
    simp only [List.length_append, List.length_singleton]
    omega
  have hdata : ((some offsetDo).getD []).length ≤ 0xFFFF := hdolen
  obtain ⟨n, answer, api', hn, -, hpresents, hsend, hcur'⟩ := hconf.read api
    ⟨Cla.noSm, Ins.readBinaryExt, 0x00, 0x00, some offsetDo, ne⟩
    offset hcur ⟨hdata, hne⟩ (.odd rfl rfl rfl hdec rfl rfl hval.symm) hfile hpos
  rw [Presents, if_pos rfl] at hpresents
  have hunwrap : unwrapDiscretionary answer = .ok ((file.drop offset).take n) := by
    have hdec' := Tlv.decode_encode (by decide) hpresents []
    rw [List.append_nil] at hdec'
    obtain ⟨l, -, rfl⟩ := Tlv.encode_eq_ok.mp hpresents
    rw [Tlv.encodeTag_of_lt (by decide)] at hdec' ⊢
    simp only [List.cons_append] at hdec' ⊢
    rw [unwrapDiscretionary, if_pos (.inl rfl), hdec']
    rfl
  refine ⟨n, api', hn, ?_, hcur'⟩
  rw [readBinaryExt, henc, Proc.lift_ok_bind_apply,
    Proc.bind_apply_ok (send_of_transceiveCmd hdata hne hsend), Proc.lift_apply, Option.getD_some,
    hunwrap]

/-- A chunk read in the file is a non-empty piece of it at the requested offset. -/
lemma readChunk_conforming {api : MrtdApi τ} (hcur : Current api) {totalLen offset : Nat}
    (hoff : offset < totalLen) (htotal : totalLen ≤ file.length) (hmax : totalLen ≤ maxFileLen) :
    ∃ n api', 1 ≤ n ∧ readChunk totalLen offset api = (.ok ((file.drop offset).take n), api') ∧
      Current api' := by
  unfold maxFileLen at hmax
  have hpos : 0 < min (totalLen - offset) bodyChunkLen := by
    unfold bodyChunkLen
    omega
  have hne : min (totalLen - offset) bodyChunkLen ≤ 65536 := by
    unfold bodyChunkLen
    omega
  unfold readChunk
  by_cases h15 : offset ≤ 0x7FFF
  · simp only [if_pos h15]
    exact readBinary_conforming hconf hcur h15 (by omega) hpos hne
  · simp only [if_neg h15]
    exact readBinaryExt_conforming hconf hcur (by omega) (by omega) hpos hne

/-- From a prefix of the file the loop goes on to a longer prefix, at least as long as declared. -/
lemma readTail_conforming {api : MrtdApi τ} (hcur : Current api) {totalLen : Nat}
    (htotal : totalLen ≤ file.length) (hmax : totalLen ≤ maxFileLen) {k : Nat} :
    ∃ m api', totalLen ≤ (file.take m).length ∧
      readTail totalLen (file.take k) api = (.ok (file.take m), api') := by
  induction hn : totalLen - (file.take k).length using Nat.strongRecOn generalizing k api with
  | _ n ih =>
  subst hn
  by_cases hlt : (file.take k).length < totalLen
  · obtain ⟨n, api₁, hn1, hread, hcur₁⟩ := readChunk_conforming hconf hcur hlt htotal hmax
    have hk : (file.take k).length = k := by
      rw [List.length_take] at hlt ⊢
      omega
    rw [hk] at hlt hread
    have hchunk : file.take k ++ (file.drop k).take n = file.take (k + n) :=
      take_append_drop_of_add.symm
    have hne : (file.drop k).take n ≠ [] := by
      refine List.ne_nil_of_length_pos ?_
      rw [List.length_take, List.length_drop]
      omega
    have hread' : readChunk totalLen (file.take k).length api =
        (.ok ((file.drop k).take n), api₁) := by rw [hk, hread]
    rw [readTail_chunk (by omega) hread' hne, hchunk]
    refine ih _ ?_ hcur₁ rfl
    rw [List.length_take, List.length_take]
    omega
  · exact ⟨k, api, by omega, readTail_of_ge (by omega) api⟩

/-- The first chunk is a non-empty prefix of the file. -/
lemma readBinaryBySfi_conforming {api : MrtdApi τ} (hfresh : Fresh api) (hfile : file ≠ []) :
    ∃ n api', 1 ≤ n ∧ readBinaryBySfi sfi 0 headerChunkLen api = (.ok (file.take n), api') ∧
      Current api' := by
  have hpos : 0 < file.length := List.length_pos_iff.mpr hfile
  obtain ⟨n, api', hn, -, hsend, hcur⟩ := hconf.select api
    ⟨Cla.noSm, Ins.readBinary, 0x80 ||| (sfi &&& 0x1F), 0, none, headerChunkLen⟩ hfresh
    ⟨Nat.zero_le _, show headerChunkLen ≤ 65536 by decide⟩ ⟨rfl, rfl⟩ hpos
    (show 0 < headerChunkLen by decide)
  refine ⟨n, api', hn, ?_, hcur⟩
  rw [readBinaryBySfi, Proc.bind_apply_ok (send_of_transceiveCmd (Nat.zero_le _) (by decide) hsend)]
  rfl

end Conforming

/-- **Exact reading.**  For a conforming chip holding `file`, whose TLV header declares an object
of `totalLen` bytes that the file contains, the read always returns: either exactly the first
`totalLen` bytes of the file, or the size error when `totalLen` exceeds 512 KiB, or a TLV error
when the first answer was too short to hold the header.  Against any transport at all, whatever is
returned has the declared length, at most 512 KiB, and an empty chunk before the end is an error.
-/
theorem readFileBySfi_exact {file : Bytes} {sfi : UInt8} {Fresh Current : MrtdApi τ → Prop}
    (hconf : ConformingReads file sfi Fresh Current) {tl : DecodedTl}
    (hfile : Tlv.decodeTagAndLength file = .ok tl)
    (hlen : tl.encodedLen + tl.length.value ≤ file.length) :
    (∀ api : MrtdApi τ, Fresh api →
      (∃ api', readFileBySfi sfi api =
        (.ok (file.take (tl.encodedLen + tl.length.value)), api') ∧
        tl.encodedLen + tl.length.value ≤ maxFileLen) ∨
      (∃ api', readFileBySfi sfi api =
        (.err (.fileTooLarge (tl.encodedLen + tl.length.value)), api') ∧
        maxFileLen < tl.encodedLen + tl.length.value) ∨
      (∃ first api' message, readBinaryBySfi sfi 0 headerChunkLen api = (.ok first, api') ∧
        (first.length < 2 ∨ ∀ tl', Tlv.decodeTagAndLength first ≠ .ok tl') ∧
        readFileBySfi sfi api = (.err (.tlv message), api'))) ∧
    (∀ (api api' : MrtdApi τ) (out : Bytes), readFileBySfi sfi api = (.ok out, api') →
      ∃ first totalLen api₁, Declares sfi api first totalLen api₁ ∧ out.length = totalLen ∧
        totalLen ≤ maxFileLen) ∧
    (∀ (api api₁ api₂ api₃ : MrtdApi τ) (first data : Bytes) (totalLen : Nat),
      Declares sfi api first totalLen api₁ → totalLen ≤ maxFileLen →
      Fetched totalLen first api₁ data api₂ → data.length < totalLen →
      readChunk totalLen data.length api₂ = (.ok [], api₃) →
      readFileBySfi sfi api = (.err (.response
        s!"short read: got {data.length} of {totalLen} declared bytes for file"), api₃)) := by
  refine ⟨fun api hfresh => ?_, fun api api' out h => ?_, ?_⟩
  · have hne : file ≠ [] := by
      rintro rfl
      simp [Tlv.decodeTagAndLength, Tlv.decodeTag] at hfile
    obtain ⟨n, api₁, hn, hread, hcur⟩ := readBinaryBySfi_conforming hconf hfresh hne
    by_cases hlong : (file.take n).length < 2
    · refine .inr (.inr ⟨_, api₁, "not enough bytes for TLV header", hread, .inl hlong, ?_⟩)
      rw [readFileBySfi, Proc.bind_apply_ok hread, if_pos hlong]
      rfl
    rcases hdec : Tlv.decodeTagAndLength (file.take n) with tl' | e | _
    · -- a header that decodes from a prefix is the header of the file
      have happend := Tlv.decodeTagAndLength_append hdec (file.drop n)
      rw [List.take_append_drop, hfile] at happend
      obtain rfl := Outcome.ok.inj happend
      have hdecl : Declares sfi api (file.take n) (tl.encodedLen + tl.length.value) api₁ :=
        ⟨hread, by omega, tl, hdec, rfl⟩
      rw [readFileBySfi_of_declares hdecl]
      by_cases hmax : tl.encodedLen + tl.length.value > maxFileLen
      · exact .inr (.inl ⟨api₁, by rw [if_pos hmax], hmax⟩)
      · obtain ⟨m, api₂, hm, htail⟩ := readTail_conforming hconf hcur hlen (Nat.le_of_not_gt hmax)
        refine .inl ⟨api₂, ?_, Nat.le_of_not_gt hmax⟩
        rw [if_neg hmax, Proc.bind_apply_ok htail, Proc.pure_apply, List.take_take]
        rw [List.length_take] at hm
        rw [Nat.min_eq_left (by omega)]
    · refine .inr (.inr ⟨_, api₁, e.text, hread, .inr (by simp [hdec]), ?_⟩)
      rw [readFileBySfi, Proc.bind_apply_ok hread, if_neg hlong, hdec]
      rfl
    · exact absurd hdec (Tlv.decodeTagAndLength_ne_panic _)
  · obtain ⟨first, totalLen, api₁, data, hdecl, hmax, -, hdata, rfl⟩ := readFileBySfi_eq_ok h
    exact ⟨first, totalLen, api₁, hdecl, by rw [List.length_take]; omega, hmax⟩
  · intro api api₁ api₂ api₃ first data totalLen hdecl hmax hfetched hlt hread
    rw [readFileBySfi_of_declares hdecl, if_neg (by omega), Proc.bind_apply_err]
    rw [hfetched.readTail_eq, readTail_empty hlt hread]

/-! ## A chip that serves a file -/

/-- The offset a READ BINARY on the wire asks for, and whether it is the odd instruction. -/
def requestedOffset (w : CommandApdu.Wire) : Option (Nat × Bool) :=
  match w.header with
  | [_, ins, p1, p2] =>
    if ins = Ins.readBinary then
      some (if p1 &&& 0x80 = 0x80 then p2.toNat else p1.toNat * 256 + p2.toNat, false)
    else if ins = Ins.readBinaryExt then
      (Tlv.decode w.body).toOption.map fun tv => (ofBE tv.value, true)
    else none
  | _ => none

/-- What a chip that holds `file` puts in the response body, at most `chunk` bytes at a time. -/
def fileBody (file : Bytes) (chunk ne offset : Nat) : Bool → Outcome TransceiveError Bytes
  | false => .ok ((file.drop offset).take (min ne chunk))
  | true => Tlv.encode 0x53 ((file.drop offset).take (min ne chunk))

/-- The answer of that chip to a command on the wire. -/
def fileAnswer (file : Bytes) (chunk : Nat) (wire : Bytes) : Outcome TransceiveError Bytes :=
  match (CommandApdu.parse wire).bind fun w => (requestedOffset w).map fun o => (w.ne, o) with
  | some (ne, offset, odd) => do
    let body ← fileBody file chunk ne offset odd
    return body ++ StatusWord.success.toBytes
  | none => .ok [0x6D, 0x00]

/-- That chip as a channel without secure messaging. -/
@[reducible] def fileServer (file : Bytes) (chunk : Nat) : Transceiver Unit :=
  ⟨fun wire t => (fileAnswer file chunk wire, t)⟩

/-- What a plain channel returns goes straight to the caller when its status is 9000. -/
lemma transceiveCmd_plain {cmd : CommandApdu} {body : Bytes} {t t' : τ}
    (hbody : body ≠ [])
    (h : Transceiver.transceive cmd.toBytes t =
      (.ok (body ++ StatusWord.success.toBytes), t')) :
    transceiveCmd cmd ⟨t, none⟩ = (.ok ⟨StatusWord.success, some body⟩, ⟨t', none⟩) := by
  have hpar := ResponseApdu.fromBytes_append body StatusWord.success
  rw [if_neg hbody] at hpar
  have ht : onTransceiver (Transceiver.transceive cmd.toBytes) (MrtdApi.mk t none) =
      (.ok (body ++ StatusWord.success.toBytes), ⟨t', none⟩) := by
    rw [onTransceiver_eq_ok, h]
    exact ⟨rfl, rfl⟩
  rw [transceiveCmd, Proc.bind_apply_ok (withSm_none _ _ _), Proc.bind_apply_ok ht, hpar]
  rfl

/-- The file server answers as a conforming chip, whatever the chunk size. -/
lemma fileServer_conforming (file : Bytes) {chunk : Nat} (hchunk : 1 ≤ chunk) (sfi : UInt8) :
    @ConformingReads Unit (fileServer file chunk) file sfi (fun api => api.sm = none)
      (fun api => api.sm = none) := by
  have hserve : ∀ (cmd : CommandApdu) (offset : Nat) (odd : Bool) (answer : Bytes), cmd.InLimits →
      requestedOffset ⟨cmd.rawHeader, cmd.body, cmd.ne⟩ = some (offset, odd) → answer ≠ [] →
      fileBody file chunk cmd.ne offset odd = .ok answer →
      @transceiveCmd Unit (fileServer file chunk) cmd ⟨(), none⟩ =
        (.ok ⟨StatusWord.success, some answer⟩, ⟨(), none⟩) := by
    intro cmd offset odd answer hlim hreq hne hanswer
    refine @transceiveCmd_plain Unit (fileServer file chunk) _ _ _ _ hne (Prod.ext ?_ rfl)
    change fileAnswer file chunk cmd.toBytes = _
    simp only [fileAnswer, CommandApdu.parse_toBytes hlim, Option.bind_some, hreq, Option.map_some,
      hanswer, Outcome.ok_bind, Outcome.pure_eq]
  have hpiece : ∀ (offset ne : Nat), offset < file.length → 0 < ne →
      (file.drop offset).take (min ne chunk) ≠ [] := by
    intro offset ne hoff hpos
    refine List.ne_nil_of_length_pos ?_
    rw [List.length_take, List.length_drop]
    omega
  refine @ConformingReads.mk Unit (fileServer file chunk) _ _ _ _ ?_ ?_
  · rintro ⟨⟨⟩, _⟩ cmd rfl hlim ⟨hins, hp1⟩ hoff hpos
    have hbit : ∀ b : UInt8, (0x80 ||| (b &&& 0x1F)) &&& 0x80 = 0x80 :=
      forall_byte (by decide +kernel)
    have hreq : requestedOffset ⟨cmd.rawHeader, cmd.body, cmd.ne⟩ =
        some (cmd.p2.toNat, false) := by
      simp only [requestedOffset, CommandApdu.rawHeader, hins, if_true, hp1, hbit]
    exact ⟨min cmd.ne chunk, ⟨(), none⟩, by omega, by omega,
      hserve cmd _ _ _ hlim hreq (hpiece _ _ hoff hpos) rfl, rfl⟩
  · rintro ⟨⟨⟩, _⟩ cmd offset rfl hlim hreads hoff hpos
    cases hreads with
    | even hins hp1 hoffset =>
      have hbit : ¬ cmd.p1 &&& 0x80 = 0x80 := by
        have hall : ∀ b : UInt8, b < 0x80 → ¬ b &&& 0x80 = 0x80 := forall_byte (by decide +kernel)
        exact hall cmd.p1 hp1
      have hreq : requestedOffset ⟨cmd.rawHeader, cmd.body, cmd.ne⟩ = some (offset, false) := by
        simp only [requestedOffset, CommandApdu.rawHeader, hins, if_true, if_neg hbit, hoffset]
      refine ⟨min cmd.ne chunk, _, ⟨(), none⟩, by omega, by omega, ?_,
        hserve cmd _ _ _ hlim hreq (hpiece _ _ hoff hpos) rfl, rfl⟩
      rw [Presents, hins, if_neg (by decide)]
    | @odd tv hins hp1 hp2 htv htag hwhole hoffset =>
      have hreq : requestedOffset ⟨cmd.rawHeader, cmd.body, cmd.ne⟩ = some (offset, true) := by
        simp only [requestedOffset, CommandApdu.rawHeader, hins, htv, hoffset,
          Outcome.toOption_ok, Option.map_some, if_true,
          if_neg (show ¬ Ins.readBinaryExt = Ins.readBinary by decide)]
      obtain ⟨answer, hanswer⟩ : ∃ answer, (Tlv.encode 0x53
          ((file.drop offset).take (min cmd.ne chunk)) : Outcome TlvError Bytes) = .ok answer := by
        have hne := hlim.2
        refine Tlv.encode_isOk ?_
        rw [List.length_take]
        omega
      have hnil : answer ≠ [] := by
        obtain ⟨l, -, rfl⟩ := Tlv.encode_eq_ok.mp hanswer
        simp [Tlv.encodeTag_of_lt]
      have hanswer' : (Tlv.encode 0x53 ((file.drop offset).take (min cmd.ne chunk)) :
          Outcome TransceiveError Bytes) = .ok answer :=
        Tlv.encode_eq_ok.mpr (Tlv.encode_eq_ok.mp hanswer)
      refine ⟨min cmd.ne chunk, answer, ⟨(), none⟩, by omega, by omega, ?_,
        hserve cmd _ _ _ hlim hreq hnil hanswer', rfl⟩
      rw [Presents, hins, if_pos rfl]
      exact hanswer

/-- A short file with a byte behind its TLV object, read three bytes at a time. -/
theorem readFileBySfi_exact_served :
    ∃ api', @readFileBySfi Unit (fileServer [0x60, 0x04, 1, 2, 3, 4, 0xFF] 3) 0x1E ⟨(), none⟩ =
      (.ok [0x60, 0x04, 1, 2, 3, 4], api') := by
  have hfile : Tlv.decodeTagAndLength [0x60, 0x04, 1, 2, 3, 4, 0xFF] =
      .ok ⟨⟨0x60, 1⟩, ⟨4, 1⟩, 2⟩ := rfl
  have hread := (@readFileBySfi_exact Unit (fileServer [0x60, 0x04, 1, 2, 3, 4, 0xFF] 3) _ 0x1E _ _
    (fileServer_conforming _ (by decide) _) _ hfile (by decide)).1 ⟨(), none⟩ rfl
  rcases hread with ⟨api', hok, -⟩ | ⟨api', herr, hmax⟩ | ⟨first, api', message, hfirst, hshort, -⟩
  · exact ⟨api', hok⟩
  · exact absurd hmax (by decide)
  · -- the first three bytes hold the header
    have hok : Outcome.ok first = .ok [0x60, 0x04, 1] :=
      (congrArg Prod.fst hfirst).symm.trans rfl
    obtain rfl := Outcome.ok.inj hok
    rcases hshort with hlong | hnone
    · exact absurd hlong (by decide)
    · exact absurd rfl (hnone ⟨⟨0x60, 1⟩, ⟨4, 1⟩, 2⟩)

end MrtdApi

end Dmrtd
