import IdentityCrates.IncometaxPanQr.Parser

/-!
# Re-serialisation of the outer block

The signature of a PAN QR is checked over bytes that `PanOuterBlockMessage::build` writes, not over
the bytes that were scanned.  So what is verified is what was received only if `build` is an exact
inverse of `parse`, on every input that parses.

It is: each reader reads exactly one format, the one its builder writes, and from these the message
reader is exact for `build` on well-formed messages (`PanOuterBlockMessage.decodes`).  A parsed
message is well formed, so it is rebuilt to the very prefix it was read from, and a well-formed
message is read back.  Exactness includes that no reader panics.
-/

namespace IncometaxPanQr

open Octets Rust

/-! ## The readers of the cursor -/

namespace Cursor

/-- `take` in terms of what is left. -/
lemma take_apply {n : Nat} {field : String} {c : Rust.Cursor} (hc : c.Valid) :
    take n field c =
      if c.rest.length < n then (.err (.unexpectedEof field), c)
      else (.ok (c.rest.take n), c.advance n) := by
  have hremaining : remaining c = (.ok c.rest.length, c) := by
    unfold remaining
    rw [Proc.get_bind_apply, Proc.lift_apply, checkedSub_eq hc, ← Rust.Cursor.length_rest]
  unfold take
  rw [Proc.bind_apply_ok hremaining]
  by_cases hlen : c.rest.length < n
  · rw [if_pos hlen, if_pos hlen, Proc.fail_apply]
  · rw [if_neg hlen, if_neg hlen, Proc.get_bind_apply]
    rw [Rust.Cursor.length_rest] at hlen
    unfold Rust.Cursor.Valid at hc
    rw [slice_eq (by omega) (by omega), Proc.lift_ok_bind_apply, Proc.modify_bind_apply,
      Proc.pure_apply, Nat.add_sub_cancel_left]
    rfl

lemma take_reads (n : Nat) (field : String) :
    Reads (take n field) fun bytes a => bytes.length = n ∧ a = bytes := by
  refine ⟨?_, ?_⟩
  · intro c hc
    rw [take_apply hc]
    split <;> simp
  · intro c c' a hc
    rw [take_apply hc]
    constructor
    · intro h
      split at h
      · simp at h
      · rename_i hlen
        obtain ⟨ha, rfl⟩ := Prod.mk.inj h
        obtain rfl := Outcome.ok.inj ha
        have htake : (c.rest.take n).length = n := by
          rw [List.length_take]
          omega
        exact ⟨c.rest.take n, List.take_prefix n c.rest, ⟨htake, rfl⟩, by rw [htake]⟩
    · rintro ⟨bytes, hstart, ⟨rfl, rfl⟩, rfl⟩
      rw [if_neg (by have := hstart.length_le; omega),
        List.prefix_iff_eq_take.mp hstart |>.symm]

lemma u8_decodes (field : String) : Decodes (u8 field) (fun a => [a]) fun _ => True := by
  refine ((take_reads 1 field).bind_pure_of ?_).congr (P := fun bytes b =>
    ∃ a : Bytes, (bytes.length = 1 ∧ a = bytes) ∧ b = a.getD 0 0) ?_
  · rintro bytes _ ⟨hlen, rfl⟩
    obtain ⟨x, rfl⟩ := List.length_eq_one_iff.mp hlen
    rfl
  · intro bytes b
    constructor
    · rintro ⟨_, ⟨hlen, rfl⟩, rfl⟩
      obtain ⟨x, rfl⟩ := List.length_eq_one_iff.mp hlen
      exact ⟨rfl, trivial⟩
    · rintro ⟨rfl, -⟩
      exact ⟨[b], ⟨rfl, rfl⟩, rfl⟩

lemma u16_decodes (field : String) :
    Decodes (u16 field) (fun a => toBE 2 a.toNat) fun _ => True := by
  refine ((take_reads 2 field).bind_pure_of ?_).congr (P := fun bytes b =>
    ∃ a : Bytes, (bytes.length = 2 ∧ a = bytes) ∧ b = UInt16.ofNat (ofBE a)) ?_
  · rintro bytes _ ⟨hlen, rfl⟩
    obtain ⟨x, y, rfl⟩ := List.length_eq_two.mp hlen
    rfl
  · intro bytes b
    constructor
    · rintro ⟨a, ⟨hlen, rfl⟩, rfl⟩
      have hlt : ofBE a < 2 ^ 16 := by
        have hbound := ofBE_lt a
        rw [hlen] at hbound
        exact hbound
      refine ⟨?_, trivial⟩
      show a = toBE 2 (UInt16.ofNat (ofBE a)).toNat
      rw [UInt16.toNat_ofNat_of_lt' hlt, ← hlen, toBE_ofBE]
    · rintro ⟨rfl, -⟩
      refine ⟨_, ⟨length_toBE 2 _, rfl⟩, ?_⟩
      rw [ofBE_toBE, Nat.mod_eq_of_lt (by exact b.toNat_lt), UInt16.ofNat_toNat]

lemma u32_decodes (field : String) :
    Decodes (u32 field) (fun a => toBE 4 a.toNat) fun _ => True := by
  refine ((take_reads 4 field).bind_pure_of ?_).congr (P := fun bytes b =>
    ∃ a : Bytes, (bytes.length = 4 ∧ a = bytes) ∧ b = UInt32.ofNat (ofBE a)) ?_
  · rintro _ a ⟨hlen, rfl⟩
    obtain ⟨w, x, y, z, rfl⟩ : ∃ w x y z, a = [w, x, y, z] := by
      match a, hlen with
      | [w, x, y, z], _ => exact ⟨w, x, y, z, rfl⟩
    rfl
  · intro bytes b
    constructor
    · rintro ⟨a, ⟨hlen, rfl⟩, rfl⟩
      have hlt : ofBE a < 2 ^ 32 := by
        have hbound := ofBE_lt a
        rw [hlen] at hbound
        exact hbound
      refine ⟨?_, trivial⟩
      show a = toBE 4 (UInt32.ofNat (ofBE a)).toNat
      rw [UInt32.toNat_ofNat_of_lt' hlt, ← hlen, toBE_ofBE]
    · rintro ⟨rfl, -⟩
      refine ⟨_, ⟨length_toBE 4 _, rfl⟩, ?_⟩
      rw [ofBE_toBE, Nat.mod_eq_of_lt (by exact b.toNat_lt), UInt32.ofNat_toNat]

lemma skip_reads (n : Nat) (field : String) :
    Reads (skip n field) fun bytes _ => bytes.length = n := by
  refine ((take_reads n field).bind_pure_of (g := fun _ => ()) fun _ _ _ => rfl).congr ?_
  intro bytes _
  constructor
  · rintro ⟨_, ⟨hlen, -⟩, -⟩
    exact hlen
  · intro hlen
    exact ⟨bytes, ⟨hlen, rfl⟩, rfl⟩

lemma expect_reads (magic : Bytes) (field : String) :
    Reads (expect magic field) fun bytes _ => bytes = magic := by
  refine ⟨?_, ?_⟩
  · intro c hc
    refine Proc.bind_ne_panic ((take_reads magic.length field).safe c hc) ?_
    intro found c' _
    split <;> simp
  · intro c c' u hc
    unfold expect
    rw [Proc.bind_eq_ok]
    constructor
    · rintro ⟨found, c₁, h₁, h₂⟩
      obtain ⟨bytes, hstart, ⟨hlen, rfl⟩, rfl⟩ :=
        ((take_reads magic.length field).exact c c₁ found hc).mp h₁
      split at h₂
      · simp at h₂
      · rename_i heq
        obtain ⟨-, rfl⟩ := Prod.mk.inj h₂
        exact ⟨found, hstart, not_not.mp heq, rfl⟩
    · rintro ⟨bytes, hstart, rfl, rfl⟩
      refine ⟨bytes, _, ((take_reads bytes.length field).exact c _ bytes hc).mpr
        ⟨bytes, hstart, ⟨rfl, rfl⟩, rfl⟩, ?_⟩
      rw [if_neg (not_not.mpr rfl)]
      rfl

/-- `greedy` returns whatever is left. -/
lemma greedy_apply {c : Rust.Cursor} (hc : c.Valid) :
    greedy c = (.ok c.rest, { c with pos := c.data.length }) := by
  unfold greedy
  rw [Proc.get_bind_apply, sliceFrom_eq hc, Proc.lift_ok_bind_apply, Proc.set_bind_apply,
    Proc.pure_apply]
  rfl

end Cursor

/-! ## The inner block -/

namespace PanInnerBlock

/-- The block's metadata are those of its metadata byte, and its length field holds the length of
its data, in one byte unless the flag asks for two. -/
structure WellFormed (b : PanInnerBlock) : Prop where
  metadata : b.metadata = Metadata.fromByte b.metadata.raw
  length : b.data.length = b.length.toNat
  short : b.metadata.exceedLengthFlag = false → b.length.toNat < 256

/-- The length field takes the width the flag asks for, and one byte holds less than 256. -/
lemma parseLength_decodes (metadata : Metadata) :
    Decodes (parseLength metadata) (buildLength metadata) fun length =>
      metadata.exceedLengthFlag = false → length.toNat < 256 := by
  unfold parseLength
  cases hflag : metadata.exceedLengthFlag with
  | true =>
    rw [if_pos rfl]
    refine (Cursor.u16_decodes _).congr ?_
    intro bytes length
    simp [buildLength, hflag]
  | false =>
    rw [if_neg (by decide)]
    refine ((Cursor.u8_decodes _).bind_pure_of (g := UInt8.toUInt16) fun _ _ _ => rfl).congr ?_
    intro bytes length
    simp only [buildLength, hflag, Bool.false_eq_true, if_false, forall_const, and_true]
    constructor
    · rintro ⟨a, rfl, rfl⟩
      refine ⟨by simp, ?_⟩
      rw [UInt8.toNat_toUInt16]
      exact a.toNat_lt
    · rintro ⟨rfl, hlt⟩
      refine ⟨length.toUInt8, rfl, ?_⟩
      apply UInt16.toNat_inj.mp
      rw [UInt8.toNat_toUInt16, UInt16.toNat_toUInt8, Nat.mod_eq_of_lt hlt]

/-- The block reader is exact for `build`. -/
lemma decodes : Decodes parse build WellFormed := by
  unfold parse
  refine ((Cursor.u8_decodes _).bind fun byte => (parseLength_decodes _).bind fun length =>
    (Cursor.take_reads _ _).bind_pure_of
      (g := fun data => (⟨Metadata.fromByte byte, length, data⟩ : PanInnerBlock))
      fun _ _ _ => rfl).congr ?_
  intro bytes b
  constructor
  · rintro ⟨byte, _, rfl, -, length, data, rfl, hshort, _, ⟨hlen, rfl⟩, rfl⟩
    refine ⟨?_, rfl, hlen, hshort⟩
    rw [build, Metadata.fromByte_raw, List.append_assoc]
  · rintro ⟨rfl, hb⟩
    obtain ⟨metadata, length, data⟩ := b
    have hmeta : metadata = Metadata.fromByte metadata.raw := hb.metadata
    refine ⟨metadata.raw, buildLength metadata length ++ data, List.append_assoc _ _ _, trivial,
      length, data, ?_, ?_, data, ⟨hb.length, rfl⟩, ?_⟩
    · rw [← hmeta]
    · rw [← hmeta]
      exact hb.short
    · rw [← hmeta]

end PanInnerBlock

/-! ## The message -/

namespace PanOuterBlockMessage

/-- The counts are those of the blocks, and the blocks are well formed. -/
structure WellFormed (m : PanOuterBlockMessage) : Prop where
  numBlocks1 : m.blocks1.length = m.numBlocks1.toNat
  blocks1 : ∀ b ∈ m.blocks1, b.WellFormed
  numBlocks2 : m.blocks2.length = m.numBlocks2.toNat
  blocks2 : ∀ b ∈ m.blocks2, b.WellFormed

/-- The message reader is exact for `build`. -/
lemma decodes : Decodes parse build WellFormed := by
  unfold parse
  refine ((Cursor.u8_decodes _).bind fun codeType => (Cursor.u8_decodes _).bind fun reserved0 =>
    (Cursor.u32_decodes _).bind fun reserved1 => (Cursor.u8_decodes _).bind fun reserved2 =>
    (Cursor.u16_decodes _).bind fun reserved3 => (Cursor.u8_decodes _).bind fun numBlocks1 =>
    (PanInnerBlock.decodes.many _).bind fun blocks1 => (Cursor.u8_decodes _).bind fun numBlocks2 =>
    (PanInnerBlock.decodes.many _).bind_pure_of (g := fun blocks2 =>
      ({ codeType, reserved0, reserved1, reserved2, reserved3, numBlocks1, blocks1, numBlocks2,
         blocks2 } : PanOuterBlockMessage)) fun _ _ _ => rfl).congr ?_
  intro bytes m
  constructor
  · rintro ⟨codeType, _, rfl, -, reserved0, _, rfl, -, reserved1, _, rfl, -, reserved2, _, rfl, -,
      reserved3, _, rfl, -, numBlocks1, _, rfl, -, blocks1, _, rfl, ⟨hlen1, hall1⟩, numBlocks2, _,
      rfl, -, blocks2, ⟨rfl, hlen2, hall2⟩, rfl⟩
    refine ⟨?_, hlen1, hall1, hlen2, hall2⟩
    simp only [build, List.append_assoc]
  · rintro ⟨rfl, hm⟩
    obtain ⟨hlen1, hall1, hlen2, hall2⟩ := hm
    refine ⟨m.codeType, _, ?_, trivial, m.reserved0, _, rfl, trivial, m.reserved1, _, rfl, trivial,
      m.reserved2, _, rfl, trivial, m.reserved3, _, rfl, trivial, m.numBlocks1, _, rfl, trivial,
      m.blocks1, _, rfl, ⟨hlen1, hall1⟩, m.numBlocks2, _, rfl, trivial, m.blocks2,
      ⟨rfl, hlen2, hall2⟩, rfl⟩
    simp only [build, List.append_assoc]

end PanOuterBlockMessage

/-! ## The outer block -/

namespace PanOuterBlock

/-- The bytes of an outer block with these two padding bytes. -/
def build (o : PanOuterBlock) (pad : Bytes) : Bytes :=
  o.message.build ++ [0x01] ++ [o.signatureScheme] ++ pad ++ toBE 2 o.signatureLength.toNat ++
    o.signatureData

/-- The message is well formed, and the length field holds the length of the signature. -/
structure WellFormed (o : PanOuterBlock) : Prop where
  message : o.message.WellFormed
  signature : o.signatureData.length = o.signatureLength.toNat

/-- Up to the end of the signature the reader is exact for `build` with any padding. -/
lemma parseSigned_reads :
    Reads parseSigned fun bytes o => ∃ pad, pad.length = 2 ∧ bytes = o.build pad ∧
      o.WellFormed := by
  unfold parseSigned
  refine (PanOuterBlockMessage.decodes.bind fun message => (Cursor.expect_reads _ _).bind fun _ =>
    (Cursor.u8_decodes _).bind fun scheme => (Cursor.skip_reads _ _).bind fun _ =>
    (Cursor.u16_decodes _).bind fun length => (Cursor.take_reads _ _).bind_pure_of
      (g := fun data => (⟨message, scheme, length, data⟩ : PanOuterBlock))
      fun _ _ _ => rfl).congr ?_
  intro bytes o
  constructor
  · rintro ⟨message, _, rfl, hmessage, _, _, -, rfl, rfl, scheme, _, rfl, -, pad, _, -, rfl, hpad,
      length, _, rfl, -, data, ⟨hlen, rfl⟩, rfl⟩
    refine ⟨pad, hpad, ?_, hmessage, hlen⟩
    simp only [build, List.append_assoc]
  · rintro ⟨pad, hpad, rfl, ho⟩
    refine ⟨o.message, _, ?_, ho.message, [0x01], _, (), rfl, rfl, o.signatureScheme, _, rfl,
      trivial, pad, _, (), rfl, hpad, o.signatureLength, _, rfl, trivial, o.signatureData,
      ⟨ho.signature, rfl⟩, rfl⟩
    simp only [build, List.append_assoc]

/-- `parse` accepts just the outer blocks with zero bytes behind them. -/
lemma parse_eq_ok {input : Bytes} {o : PanOuterBlock} :
    parse input = .ok o ↔ ∃ pad zeros, pad.length = 2 ∧ (∀ b ∈ zeros, b = 0) ∧ o.WellFormed ∧
      input = o.build pad ++ zeros := by
  have hvalid := Rust.Cursor.valid_new input
  unfold parse
  constructor
  · intro h
    obtain ⟨o', c₁, h₁, h₂⟩ := Proc.bind_eq_ok.mp (Prod.ext h rfl)
    obtain ⟨bytes, hsplit, ⟨pad, hpad, rfl, ho⟩, -, hvalid₁⟩ :=
      parseSigned_reads.of_ok hvalid h₁
    rw [Proc.bind_apply_ok (Cursor.greedy_apply hvalid₁)] at h₂
    split at h₂
    · simp at h₂
    · rename_i hzeros
      obtain ⟨hok, -⟩ := Prod.mk.inj h₂
      obtain rfl := Outcome.ok.inj hok
      refine ⟨pad, c₁.rest, hpad, ?_, ho, hsplit⟩
      intro b hb
      by_contra hne
      exact hzeros (List.any_eq_true.mpr ⟨b, hb, by simpa using hne⟩)
  · rintro ⟨pad, zeros, hpad, hzeros, ho, rfl⟩
    have hread : parseSigned (Rust.Cursor.new (o.build pad ++ zeros)) =
        (.ok o, (Rust.Cursor.new (o.build pad ++ zeros)).advance (o.build pad).length) :=
      parseSigned_reads.to_ok hvalid rfl ⟨pad, hpad, rfl, ho⟩
    have hrest : ((Rust.Cursor.new (o.build pad ++ zeros)).advance (o.build pad).length).rest =
        zeros := by
      rw [Rust.Cursor.rest_advance, Rust.Cursor.rest_new, List.drop_left]
    have hnone : ¬ zeros.any (· != 0) = true := by
      intro hany
      obtain ⟨b, hb, hne⟩ := List.any_eq_true.mp hany
      rw [hzeros b hb] at hne
      exact absurd hne (by decide)
    rw [Proc.bind_apply_ok hread, Proc.bind_apply_ok (Cursor.greedy_apply
      (hvalid.advance_of_prefix (List.prefix_append _ _))), hrest, if_neg hnone]
    rfl

/-- The reader of the message stops where the rebuilt message ends. -/
lemma parse_message {input : Bytes} {o : PanOuterBlock} (h : parse input = .ok o) :
    PanOuterBlockMessage.parse (Rust.Cursor.new input) =
      (.ok o.message, ⟨input, o.message.build.length⟩) := by
  obtain ⟨pad, zeros, -, -, ho, rfl⟩ := (parse_eq_ok).mp h
  have hrest : (Rust.Cursor.new (o.build pad ++ zeros)).rest =
      o.message.build ++ ([0x01] ++ [o.signatureScheme] ++ pad ++
        toBE 2 o.signatureLength.toNat ++ o.signatureData ++ zeros) := by
    rw [Rust.Cursor.rest_new]
    simp only [build, List.append_assoc]
  have hread := PanOuterBlockMessage.decodes.to_ok
    (Rust.Cursor.valid_new (o.build pad ++ zeros)) hrest ⟨rfl, ho.message⟩
  rw [hread]
  show (_, (⟨_, 0 + _⟩ : Rust.Cursor)) = _
  rw [Nat.zero_add]
  rfl

lemma parse_ne_panic (input : Bytes) : parse input ≠ .panic := by
  have hvalid := Rust.Cursor.valid_new input
  refine Proc.bind_ne_panic (parseSigned_reads.safe _ hvalid) ?_
  intro o c hread
  obtain ⟨_, _, _, _, hc⟩ := parseSigned_reads.of_ok hvalid hread
  rw [Proc.bind_apply_ok (Cursor.greedy_apply hc)]
  split <;> simp

end PanOuterBlock

/-! ## Nothing panics -/

lemma EccKey.parse_ne_panic (data : Bytes) : EccKey.parse data ≠ .panic := by
  have hreads := (Cursor.expect_reads [0x03, 0x01] "ECC_KEY_STRUCT.reserved").bind fun _ =>
    (Cursor.skip_reads 2 "ECC_KEY_STRUCT.pad0").bind fun _ =>
    (Cursor.expect_reads [0x45, 0x43, 0x43] "ECC_KEY_STRUCT.magic").bind fun _ =>
    (Cursor.skip_reads 5 "ECC_KEY_STRUCT.pad1").bind fun _ =>
    (Cursor.u16_decodes "ECC_KEY_STRUCT.curve_oid_length").bind fun oidLength =>
    (Cursor.take_reads oidLength.toNat "ECC_KEY_STRUCT.curve_oid").bind fun oid =>
    (Cursor.u16_decodes "ECC_KEY_STRUCT.key_length").bind fun keyLength =>
    (Cursor.take_reads keyLength.toNat "ECC_KEY_STRUCT.key").bind_pure_of
      (g := fun key => (⟨oid, key⟩ : EccKey)) fun _ _ _ => rfl
  exact hreads.safe _ (Rust.Cursor.valid_new data)

lemma ScBlob.parse_ne_panic (data : Bytes) : ScBlob.parse data ≠ .panic := by
  have hread := Cursor.u16_decodes "SCBLOB_STRUCT.identifier"
  refine Proc.bind_ne_panic (hread.safe _ (Rust.Cursor.valid_new data)) ?_
  intro identifier c hc
  obtain ⟨_, _, _, _, hvalid⟩ := hread.of_ok (Rust.Cursor.valid_new data) hc
  rw [Proc.bind_apply_ok (Cursor.greedy_apply hvalid)]
  simp

lemma fixHeader_ne_panic (imageBytes : Bytes) : fixHeader imageBytes ≠ .panic := by
  unfold fixHeader
  split
  · simp
  · rename_i hlen
    rw [sliceFrom_eq (by omega)]
    simp

lemma isMarker_ne_panic {data : Bytes} {i : Nat} (h : i + 2 < data.length) :
    isMarker data i ≠ .panic := by
  unfold isMarker
  rw [index_eq (List.getElem?_eq_getElem (show i < data.length by omega)), Outcome.ok_bind]
  split
  · rw [index_eq (List.getElem?_eq_getElem (show i + 1 < data.length by omega)), Outcome.ok_bind]
    simp
  · simp

/-- The scan stays within the data: it looks at three bytes where there are three, and slices a
payload only once it has checked where it ends. -/
lemma scanPayloads_ne_panic (data : Bytes) (i : Nat) (payloads : List Bytes) :
    scanPayloads data i payloads ≠ .panic := by
  fun_induction scanPayloads data i payloads with
  | case1 i payloads h ih₁ ih₂ =>
    refine Outcome.bind_ne_panic (isMarker_ne_panic h) ?_
    intro marker _
    split
    · rw [index_eq (List.getElem?_eq_getElem h), Outcome.ok_bind]
      dsimp only
      split
      · simp
      · rename_i hstop
        rw [slice_eq (by omega) (by omega), Outcome.ok_bind]
        exact ih₁ _ hstop _
    · exact ih₂
  | case2 i payloads h => simp

lemma piiOfPayloads_ne_panic (payloads : List Bytes) : piiOfPayloads payloads ≠ .panic := by
  unfold piiOfPayloads
  split <;> simp

lemma inflate_ne_panic (crates : Crates) (compressed : Bytes) :
    inflate crates compressed ≠ .panic := by
  unfold inflate inflateCapped
  split
  · simp
  · split <;> simp

lemma chunkValue_ne_panic (chunk : Text.Str) : chunkValue chunk ≠ .panic := by
  unfold chunkValue
  split
  · simp
  · split
    · simp
    · refine Outcome.bind_ne_panic (Outcome.ofOption_ne_panic _ _) ?_
      intro value _
      split <;> simp

lemma unpackChunks_ne_panic (chunks : List Text.Str) (u : BitUnpacker) :
    (unpackChunks chunks u).1 ≠ .panic := by
  induction chunks generalizing u with
  | nil => simp [unpackChunks]
  | cons chunk rest ih =>
    unfold unpackChunks
    refine Proc.bind_ne_panic (chunkValue_ne_panic chunk) ?_
    intro value u₁ _
    refine Proc.bind_ne_panic ?_ fun _ u₂ _ => ih u₂
    unfold BitUnpacker.bitUnpack
    split <;> simp

lemma unpackScannedString_ne_panic (scanned : Text.Str) :
    unpackScannedString scanned ≠ .panic := by
  have hsafe := unpackChunks_ne_panic (chunks 4 scanned) BitUnpacker.new
  unfold unpackScannedString
  split
  · simp
  · simp
  · rename_i hpanic
    rw [hpanic] at hsafe
    exact absurd rfl hsafe

namespace Parser

/-- What `handle_control` leaves alone: everything that was fixed when the outer block was read. -/
def Kept (p p' : Parser) : Prop :=
  p'.panOuter = p.panOuter ∧ p'.signature = p.signature ∧ p'.message = p.message ∧
    p'.publicKey = p.publicKey

lemma Kept.refl (p : Parser) : Kept p p := ⟨rfl, rfl, rfl, rfl⟩

lemma Kept.trans {p₁ p₂ p₃ : Parser} (h₁ : Kept p₁ p₂) (h₂ : Kept p₂ p₃) : Kept p₁ p₃ :=
  ⟨h₂.1.trans h₁.1, h₂.2.1.trans h₁.2.1, h₂.2.2.1.trans h₁.2.2.1, h₂.2.2.2.trans h₁.2.2.2⟩

/-- A step of the parser that neither panics nor touches what is fixed. -/
def Benign {α : Type} (x : Proc Parser PanQrError α) : Prop :=
  (∀ p, (x p).1 ≠ .panic) ∧ Proc.Preserves Kept x

namespace Benign

variable {α β : Type}

lemma pure (a : α) : Benign (Pure.pure a : Proc Parser PanQrError α) :=
  ⟨fun p => by simp, fun p => Kept.refl p⟩

lemma get : Benign (Proc.get : Proc Parser PanQrError Parser) :=
  ⟨fun p => by simp, fun p => Kept.refl p⟩

lemma lift {x : Outcome PanQrError α} (h : x ≠ .panic) :
    Benign (Proc.lift x : Proc Parser PanQrError α) :=
  ⟨fun _ => h, fun p => Kept.refl p⟩

lemma modify {g : Parser → Parser} (h : ∀ p, Kept p (g p)) :
    Benign (Proc.modify g : Proc Parser PanQrError Unit) :=
  ⟨fun p => by simp, h⟩

lemma bind {x : Proc Parser PanQrError α} {f : α → Proc Parser PanQrError β} (hx : Benign x)
    (hf : ∀ a, Benign (f a)) : Benign (x >>= f) :=
  ⟨fun p => Proc.bind_ne_panic (hx.1 p) fun a p' _ => (hf a).1 p',
    Proc.Preserves.bind (R := Kept) (fun _ _ _ h₁ h₂ => h₁.trans h₂) hx.2 fun a => (hf a).2⟩

end Benign

lemma handlePii_benign (data : Bytes) : Benign (handlePii data) :=
  (Benign.lift (scanPayloads_ne_panic data 0 [])).bind fun payloads =>
    (Benign.lift (piiOfPayloads_ne_panic payloads)).bind fun _ =>
      Benign.modify fun _ => ⟨rfl, rfl, rfl, rfl⟩

variable (crates : Crates)

lemma handleBlob_benign (blob : Bytes) : Benign (handleBlob crates blob) := by
  refine (Benign.lift (ScBlob.parse_ne_panic blob)).bind ?_
  intro parsed
  split
  · exact (Benign.lift (fixHeader_ne_panic parsed.data)).bind fun _ =>
      Benign.modify fun _ => ⟨rfl, rfl, rfl, rfl⟩
  · exact (Benign.lift (inflate_ne_panic crates parsed.data)).bind fun inflated =>
      handlePii_benign inflated
  · exact Benign.pure ()
  · exact Benign.pure ()

lemma dispatchBlocks_benign (blocks : List PanInnerBlock) :
    Benign (dispatchBlocks crates blocks) := by
  induction blocks with
  | nil => exact Benign.pure ()
  | cons block rest ih =>
    unfold dispatchBlocks
    refine Benign.bind ?_ fun _ => ih
    unfold dispatchBlock
    split
    · exact handleBlob_benign crates block.data
    · exact Benign.pure ()

lemma handleControl_benign : Benign (handleControl crates) :=
  Benign.get.bind fun _ => (dispatchBlocks_benign crates _).bind fun _ =>
    Benign.get.bind fun _ => dispatchBlocks_benign crates _

lemma new_ne_panic (input : Bytes) : Parser.new input ≠ .panic :=
  Outcome.bind_ne_panic (PanOuterBlock.parse_ne_panic input) fun _ _ => by simp

end Parser

namespace PanQr

variable (crates : Crates)

lemma fromScannedString_ne_panic (scanned : Text.Str) :
    fromScannedString crates scanned ≠ .panic := by
  unfold fromScannedString
  refine Outcome.bind_ne_panic (unpackScannedString_ne_panic scanned) ?_
  intro input _
  refine Outcome.bind_ne_panic (Parser.new_ne_panic input) ?_
  intro p _
  have hsafe := (Parser.handleControl_benign crates).1 p
  split
  · simp
  · split
    · simp
    · simp
    · rename_i hpanic
      rw [hpanic] at hsafe
      exact absurd rfl hsafe

lemma verify_ne_panic (q : PanQr) : q.verify crates ≠ .panic := by
  unfold verify
  refine Outcome.bind_ne_panic (Outcome.ofOption_ne_panic _ _) ?_
  intro key _
  refine Outcome.bind_ne_panic ?_ ?_
  · unfold Verifier.new
    refine Outcome.bind_ne_panic ?_ ?_
    · unfold Verifier.decodeKey
      split <;> simp
    · intro decoded _
      refine Outcome.bind_ne_panic (EccKey.parse_ne_panic decoded) ?_
      intro eccKey _
      refine Outcome.bind_ne_panic (Outcome.ofOption_ne_panic _ _) ?_
      intro point _
      refine Outcome.bind_ne_panic (Outcome.ofOption_ne_panic _ _) ?_
      intro verifyingKey _
      simp
  · intro verifier _
    refine Outcome.bind_ne_panic (Outcome.ofOption_ne_panic _ _) ?_
    intro signature _
    simp

/-- A decoded QR carries the message and the signature of the outer block that the scanned text
unpacks to. -/
lemma fromScannedString_eq_ok {scanned : Text.Str} {q : PanQr}
    (h : fromScannedString crates scanned = .ok q) :
    ∃ input outer, unpackScannedString scanned = .ok input ∧ PanOuterBlock.parse input = .ok outer ∧
      q.parser.message = outer.message.build ∧ q.parser.signature = outer.signatureData := by
  obtain ⟨input, hinput, h⟩ := Outcome.bind_eq_ok.mp h
  obtain ⟨p, hp, h⟩ := Outcome.bind_eq_ok.mp h
  obtain ⟨outer, houter, hnew⟩ := Outcome.bind_eq_ok.mp hp
  obtain rfl := Outcome.ok.inj hnew
  refine ⟨input, outer, hinput, houter, ?_⟩
  split at h
  · simp at h
  · split at h
    · rename_i p' hcontrol
      obtain rfl := Outcome.ok.inj h
      have hkept := (Parser.handleControl_benign crates).2
        (Parser.mk outer outer.signatureData outer.message.build
          (Parser.setKey outer.message.reserved1) none none)
      rw [hcontrol] at hkept
      exact ⟨hkept.2.2.1, hkept.2.1⟩
    · simp at h
    · simp at h

/-- A verdict of `verify` is the verdict on the message and the signature the QR carries. -/
lemma verify_eq_ok {q : PanQr} {verdict : Bool} (h : q.verify crates = .ok verdict) :
    ∃ (key : crates.VerifyingKey) (signature : crates.Signature),
      crates.signatureFromSlice q.parser.signature = some signature ∧
      verdict = crates.verify key q.parser.message signature := by
  obtain ⟨_, _, h⟩ := Outcome.bind_eq_ok.mp h
  obtain ⟨verifier, _, h⟩ := Outcome.bind_eq_ok.mp h
  obtain ⟨signature, hsignature, h⟩ := Outcome.bind_eq_ok.mp h
  exact ⟨verifier.verifyingKey, signature, Outcome.ofOption_eq_ok.mp hsignature,
    (Outcome.ok.inj h).symm⟩

end PanQr

/-! ## The contract -/

/-- What parsing and re-serialising owe to the signature check. -/
structure Reserialises : Prop where
  /-- A parsed message rebuilds to the prefix it was read from, and the input is that prefix, the
  constant, the scheme, two padding bytes, the signature behind its length, and zero bytes. -/
  received : ∀ (input : Bytes) (o : PanOuterBlock), PanOuterBlock.parse input = .ok o →
    PanOuterBlockMessage.parse (Rust.Cursor.new input) =
        (.ok o.message, ⟨input, o.message.build.length⟩) ∧
      o.signatureData.length = o.signatureLength.toNat ∧
      ∃ pad zeros, pad.length = 2 ∧ (∀ b ∈ zeros, b = 0) ∧
        input = o.message.build ++ [0x01] ++ [o.signatureScheme] ++ pad ++
          toBE 2 o.signatureLength.toNat ++ o.signatureData ++ zeros
  /-- The verdict of `verify` is the verdict on that prefix of the received bytes. -/
  verified : ∀ (crates : Crates) (scanned : Text.Str) (q : PanQr) (verdict : Bool),
    PanQr.fromScannedString crates scanned = .ok q → q.verify crates = .ok verdict →
    ∃ (input : Bytes) (outer : PanOuterBlock) (key : crates.VerifyingKey)
      (signature : crates.Signature),
      unpackScannedString scanned = .ok input ∧ PanOuterBlock.parse input = .ok outer ∧
      crates.signatureFromSlice outer.signatureData = some signature ∧
      verdict = crates.verify key (input.take outer.message.build.length) signature
  /-- A well-formed message, whatever follows it, is read back as it was. -/
  rebuilt : ∀ (m : PanOuterBlockMessage) (rest : Bytes), m.WellFormed →
    PanOuterBlockMessage.parse (Rust.Cursor.new (m.build ++ rest)) =
      (.ok m, ⟨m.build ++ rest, m.build.length⟩)
  /-- No bytes and no text make the decoder panic. -/
  total : ∀ input : Bytes, PanOuterBlock.parse input ≠ .panic ∧ Parser.new input ≠ .panic
  decoder : ∀ (crates : Crates) (scanned : Text.Str),
    PanQr.fromScannedString crates scanned ≠ .panic

/-- **Re-serialisation.**  `parse` and `build` are inverse to each other, so the bytes whose
signature is checked are the bytes received; and nothing panics. -/
theorem reserialises : Reserialises where
  received := by
    intro input o h
    refine ⟨PanOuterBlock.parse_message h, ?_⟩
    obtain ⟨pad, zeros, hpad, hzeros, ho, hinput⟩ := PanOuterBlock.parse_eq_ok.mp h
    exact ⟨ho.signature, pad, zeros, hpad, hzeros, hinput⟩
  verified := by
    intro crates scanned q verdict hq hverdict
    obtain ⟨input, outer, hinput, houter, hmessage, hsignature⟩ :=
      PanQr.fromScannedString_eq_ok crates hq
    obtain ⟨key, signature, hslice, rfl⟩ := PanQr.verify_eq_ok crates hverdict
    refine ⟨input, outer, key, signature, hinput, houter, by rw [← hsignature, hslice], ?_⟩
    have hstart : input.take outer.message.build.length = outer.message.build := by
      obtain ⟨pad, zeros, -, -, -, rfl⟩ := PanOuterBlock.parse_eq_ok.mp houter
      simp only [PanOuterBlock.build, List.append_assoc]
      exact List.take_left' rfl
    rw [hstart, hmessage]
  rebuilt := by
    intro m rest hm
    have hrest : (Rust.Cursor.new (m.build ++ rest)).rest = m.build ++ rest := Rust.Cursor.rest_new _
    have hread := PanOuterBlockMessage.decodes.to_ok
      (Rust.Cursor.valid_new (m.build ++ rest)) hrest ⟨rfl, hm⟩
    rw [hread]
    show (_, (⟨_, 0 + _⟩ : Rust.Cursor)) = _
    rw [Nat.zero_add]
    rfl
  total := fun input => ⟨PanOuterBlock.parse_ne_panic input, Parser.new_ne_panic input⟩
  decoder := PanQr.fromScannedString_ne_panic

/-- A message with one block in its first part, scheme 0, a signature of two bytes, and three
zeros. -/
def sampleOuterBlock : Bytes :=
  [0x03, 0x00, 0x00, 0x00, 0x00, 0x1E, 0x00, 0x00, 0x01, 0x01, 0xC5, 0x03, 0x50, 0x41, 0x4E, 0x00,
    0x01, 0x00, 0x00, 0x00, 0x00, 0x02, 0xAB, 0xCD, 0x00, 0x00, 0x00]

theorem reserialises_sample :
    ∃ o pad zeros, PanOuterBlock.parse sampleOuterBlock = .ok o ∧ pad.length = 2 ∧
      sampleOuterBlock = o.message.build ++ [0x01] ++ [o.signatureScheme] ++ pad ++
        toBE 2 o.signatureLength.toNat ++ o.signatureData ++ zeros := by
  have hsample : PanOuterBlock.parse sampleOuterBlock = .ok
      ⟨⟨0x03, 0x00, 0x1E, 0x00, 0x01, 0x01, [⟨Metadata.fromByte 0xC5, 3, [0x50, 0x41, 0x4E]⟩], 0x00,
        []⟩, 0x00, 2, [0xAB, 0xCD]⟩ := by
    decide +kernel
  obtain ⟨-, -, pad, zeros, hpad, -, hinput⟩ := reserialises.received _ _ hsample
  exact ⟨_, pad, zeros, hsample, hpad, hinput⟩

end IncometaxPanQr
