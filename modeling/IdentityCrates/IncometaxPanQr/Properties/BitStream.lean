import IdentityCrates.Lib.BitStream
import IdentityCrates.IncometaxPanQr.Properties.Reserialisation

/-!
# The unpacker as a bit stream

`bit_unpack` is a carry machine in three phases.  What it computes has a one-line description: the
numbers fed so far, each written out in its width with the least significant bit first, make one
stream of bits; `output` is its whole bytes, and `a` and `b` are the bits left over.

The invariant that carries the proof is `Holds u s`: the stream `s` is the bytes of `output`
followed by the low `b` bits of `a`.  Each phase moves bits of the value from the front of what is
still to come to the end of what is held, so feeding a value appends its bits.
-/

namespace IncometaxPanQr

open BitStream Octets Rust Text

namespace BitUnpacker

/-- The unpacker holds the stream `s`: as whole bytes in `output` and fewer than eight bits in
`a`. -/
structure Holds (u : BitUnpacker) (s : List Bool) : Prop where
  stream : s = bytesBits u.output ++ bitsLSB u.b u.a.toNat
  value : u.a.toNat < 2 ^ u.b
  count : u.b < 8

lemma new_holds : new.Holds [] := ⟨rfl, by decide, by decide⟩

/-- The output is the whole bytes of the stream. -/
lemma Holds.output_eq {u : BitUnpacker} {s : List Bool} (h : u.Holds s) :
    u.output = wholeBytes s := by
  rw [h.stream, wholeBytes_bytesBits_append (by rw [length_bitsLSB]; exact h.count)]

/-- The partial byte is the bits left over. -/
lemma Holds.leftover_eq {u : BitUnpacker} {s : List Bool} (h : u.Holds s) :
    bitsLSB u.b u.a.toNat = leftover s := by
  rw [h.stream, leftover_bytesBits_append (by rw [length_bitsLSB]; exact h.count)]

/-! ## The three phases -/

/-- Two disjoint bit fields, as a sum. -/
lemma or_shiftLeft {a b : Nat} (ha : a < 2 ^ b) (v : Nat) : a ||| v <<< b = a + 2 ^ b * v := by
  rw [Nat.or_comm, Nat.shiftLeft_eq, Nat.mul_comm v, ← Nat.two_pow_add_eq_or_of_lt ha, Nat.add_comm]

/-- A byte of a longer number. -/
lemma byteBits_ofNat (n : Nat) : byteBits (UInt8.ofNat (n &&& 0xFF)) = bitsLSB 8 n := by
  have hmask : n &&& 0xFF = n % 2 ^ 8 := Nat.and_two_pow_sub_one_eq_mod n 8
  rw [byteBits, hmask, UInt8.toNat_ofNat', Nat.mod_mod, bitsLSB_mod le_rfl]

/-- Topping up moves bits from the value to the stream; after it the partial byte is empty or there
are too few bits to complete it. -/
lemma topUp_spec {u : BitUnpacker} {s : List Bool} (h : u.Holds s) {v v1 : Nat}
    (hv : v < 2 ^ v1) {u' : BitUnpacker} {v' v1' : Nat} (htop : u.topUp v v1 = (u', v', v1')) :
    ∃ s', u'.Holds s' ∧ s' ++ bitsLSB v1' v' = s ++ bitsLSB v1 v ∧ v' < 2 ^ v1' ∧
      (u'.b = 0 ∨ u'.b + v1' < 8) := by
  unfold topUp at htop
  split at htop
  · rename_i hfull
    obtain ⟨rfl, hpair⟩ := Prod.mk.inj htop
    obtain ⟨rfl, rfl⟩ := Prod.mk.inj hpair
    have hcount := h.count
    have hbyte : byteBits (UInt8.ofNat ((u.a.toNat ||| v <<< u.b) &&& 0xFF)) =
        bitsLSB u.b u.a.toNat ++ bitsLSB (8 - u.b) v := by
      rw [byteBits_ofNat, or_shiftLeft h.value, ← bitsLSB_add_mul h.value, Nat.add_sub_cancel'
        (Nat.le_of_lt hcount)]
    have hvalue : bitsLSB v1 v =
        bitsLSB (8 - u.b) v ++ bitsLSB (v1 - (8 - u.b)) (v >>> (8 - u.b)) := by
      rw [Nat.shiftRight_eq_div_pow, ← bitsLSB_add, Nat.add_sub_cancel' (by omega)]
    refine ⟨bytesBits (u.output ++ [UInt8.ofNat ((u.a.toNat ||| v <<< u.b) &&& 0xFF)]),
      ⟨(List.append_nil _).symm, Nat.zero_lt_one, Nat.zero_lt_succ 7⟩, ?_, ?_, .inl rfl⟩
    · rw [bytesBits_append, bytesBits_cons, bytesBits_nil, List.append_nil, hbyte, h.stream, hvalue]
      simp only [List.append_assoc]
    · rw [Nat.shiftRight_eq_div_pow]
      apply Nat.div_lt_of_lt_mul
      rwa [← Nat.pow_add, Nat.add_sub_cancel' (by omega)]
  · rename_i hshort
    obtain ⟨rfl, hpair⟩ := Prod.mk.inj htop
    obtain ⟨rfl, rfl⟩ := Prod.mk.inj hpair
    exact ⟨s, h, rfl, hv, by omega⟩

/-- Draining moves whole bytes of the value to the stream. -/
lemma drain_spec {u : BitUnpacker} {s : List Bool} {v v1 : Nat} (h : u.Holds s) (hv : v < 2 ^ v1)
    (hb : u.b = 0 ∨ u.b + v1 < 8) {u' : BitUnpacker} {v' v1' : Nat}
    (hdrain : u.drain v v1 = (u', v', v1')) :
    ∃ s', u'.Holds s' ∧ s' ++ bitsLSB v1' v' = s ++ bitsLSB v1 v ∧ v' < 2 ^ v1' ∧
      u'.b + v1' < 8 := by
  fun_induction drain u v v1 generalizing s with
  | case1 u v v1 hmore ih =>
    have hzero : u.b = 0 := by omega
    have hbyte : bitsLSB v1 v = bitsLSB 8 v ++ bitsLSB (v1 - 8) (v >>> 8) := by
      rw [Nat.shiftRight_eq_div_pow, ← bitsLSB_add, Nat.add_sub_cancel' (by omega)]
    have hvalue := h.value
    rw [hzero] at hvalue
    have hnext : ({ u with output := u.output ++ [UInt8.ofNat (v &&& 0xFF)] } : BitUnpacker).Holds
        (s ++ bitsLSB 8 v) := by
      refine ⟨?_, h.value, h.count⟩
      show s ++ bitsLSB 8 v = bytesBits (u.output ++ [UInt8.ofNat (v &&& 0xFF)]) ++
        bitsLSB u.b u.a.toNat
      rw [bytesBits_append, bytesBits_cons, bytesBits_nil, List.append_nil, byteBits_ofNat,
        h.stream, hzero]
      simp only [bitsLSB, List.append_nil]
    have hshift : v >>> 8 < 2 ^ (v1 - 8) := by
      rw [Nat.shiftRight_eq_div_pow]
      apply Nat.div_lt_of_lt_mul
      rwa [← Nat.pow_add, Nat.add_sub_cancel' (by omega)]
    obtain ⟨s', hs', hstream, hlt, hlast⟩ := ih hnext hshift (.inl hzero) hdrain
    refine ⟨s', hs', ?_, hlt, hlast⟩
    rw [hstream, hbyte, List.append_assoc]
  | case2 u v v1 hdone =>
    obtain ⟨rfl, hpair⟩ := Prod.mk.inj hdrain
    obtain ⟨rfl, rfl⟩ := Prod.mk.inj hpair
    exact ⟨s, h, rfl, hv, by omega⟩

/-- Keeping the last bits completes the stream. -/
lemma keep_holds {u : BitUnpacker} {s : List Bool} {v v1 : Nat} (h : u.Holds s) (hv : v < 2 ^ v1)
    (hb : u.b + v1 < 8) : (u.keep v v1).Holds (s ++ bitsLSB v1 v) := by
  unfold keep
  split
  · have hlt : u.a.toNat + 2 ^ u.b * v < 2 ^ (u.b + v1) := by
      have hvalue := h.value
      calc u.a.toNat + 2 ^ u.b * v < 2 ^ u.b * (v + 1) := by
            rw [Nat.mul_succ]
            omega
        _ ≤ 2 ^ u.b * 2 ^ v1 := Nat.mul_le_mul_left _ hv
        _ = 2 ^ (u.b + v1) := (Nat.pow_add 2 u.b v1).symm
    have hbyte : u.a.toNat + 2 ^ u.b * v < 2 ^ 8 :=
      lt_of_lt_of_le hlt (Nat.pow_le_pow_right (by decide) (by omega))
    have hmask : (v <<< u.b ||| u.a.toNat) &&& 0xFF = u.a.toNat + 2 ^ u.b * v := by
      rw [Nat.or_comm, or_shiftLeft h.value]
      exact (Nat.and_two_pow_sub_one_eq_mod _ 8).trans (Nat.mod_eq_of_lt hbyte)
    have hkept : (UInt8.ofNat ((v <<< u.b ||| u.a.toNat) &&& 0xFF)).toNat =
        u.a.toNat + 2 ^ u.b * v := by
      rw [hmask, UInt8.toNat_ofNat', Nat.mod_eq_of_lt hbyte]
    refine ⟨?_, ?_, hb⟩
    · show s ++ bitsLSB v1 v = bytesBits u.output ++ bitsLSB (u.b + v1) (UInt8.toNat _)
      rw [hkept, bitsLSB_add_mul h.value, h.stream, List.append_assoc]
    · show UInt8.toNat _ < 2 ^ (u.b + v1)
      rw [hkept]
      exact hlt
  · rename_i hnone
    obtain rfl : v1 = 0 := by omega
    rw [bitsLSB, List.append_nil]
    exact h

/-- Feeding a value appends its bits. -/
lemma feed_holds {u : BitUnpacker} {s : List Bool} (h : u.Holds s) {v v1 : Nat}
    (hv : v < 2 ^ v1) : (u.feed v v1).Holds (s ++ bitsLSB v1 v) := by
  rcases htop : u.topUp v v1 with ⟨u₁, v₁, w₁⟩
  obtain ⟨s₁, h₁, hstream₁, hlt₁, hb₁⟩ := topUp_spec h hv htop
  rcases hdrain : u₁.drain v₁ w₁ with ⟨u₂, v₂, w₂⟩
  obtain ⟨s₂, h₂, hstream₂, hlt₂, hb₂⟩ := drain_spec h₁ hlt₁ hb₁ hdrain
  have hfeed : u.feed v v1 = u₂.keep v₂ w₂ := by
    simp only [feed, htop, hdrain]
  rw [hfeed, ← hstream₁, ← hstream₂]
  exact keep_holds h₂ hlt₂ hb₂

/-- A call with a width from 1 to 32 feeds the low bits of its value. -/
lemma bitUnpack_apply (u : BitUnpacker) {v v1 : UInt32} (h : 1 ≤ v1.toNat ∧ v1.toNat ≤ 32) :
    bitUnpack v v1 u = (.ok (), u.feed (v.toNat % 2 ^ v1.toNat) v1.toNat) := by
  have hmask : v.toNat &&& ((1 <<< v1.toNat) - 1) = v.toNat % 2 ^ v1.toNat := by
    rw [Nat.one_shiftLeft]
    exact Nat.and_two_pow_sub_one_eq_mod _ _
  unfold bitUnpack
  rw [if_neg (not_not.mpr h), Proc.modify_apply, hmask]

lemma bitUnpack_holds {u : BitUnpacker} {s : List Bool} (h : u.Holds s) (v v1 : UInt32) :
    (u.feed (v.toNat % 2 ^ v1.toNat) v1.toNat).Holds (s ++ bitsLSB v1.toNat v.toNat) := by
  rw [← bitsLSB_mod (le_refl v1.toNat)]
  exact feed_holds h (Nat.mod_lt _ (Nat.two_pow_pos _))

/-! ## Any sequence of calls -/

/-- `bit_unpack` called with each pair in turn. -/
def unpackAll : List (UInt32 × UInt32) → Proc BitUnpacker PanQrError Unit
  | [] => pure ()
  | (v, v1) :: rest => do
    bitUnpack v v1
    unpackAll rest

/-- The stream of a sequence of calls: the low bits of each value, one value after the other. -/
def streamOf (calls : List (UInt32 × UInt32)) : List Bool :=
  calls.flatMap fun call => bitsLSB call.2.toNat call.1.toNat

/-- Calls with widths from 1 to 32 all succeed, and the unpacker holds their stream. -/
lemma unpackAll_holds {u : BitUnpacker} {s : List Bool} (h : u.Holds s)
    {calls : List (UInt32 × UInt32)}
    (hcalls : ∀ call ∈ calls, 1 ≤ call.2.toNat ∧ call.2.toNat ≤ 32) :
    ∃ u', unpackAll calls u = (.ok (), u') ∧ u'.Holds (s ++ streamOf calls) := by
  induction calls generalizing u s with
  | nil =>
    refine ⟨u, rfl, ?_⟩
    rw [streamOf, List.flatMap_nil, List.append_nil]
    exact h
  | cons call rest ih =>
    obtain ⟨v, v1⟩ := call
    obtain ⟨u', hrun, hholds⟩ := ih (bitUnpack_holds h v v1) fun c hc => hcalls c (by simp [hc])
    refine ⟨u', ?_, ?_⟩
    · unfold unpackAll
      rw [Proc.bind_apply_ok (bitUnpack_apply u (hcalls (v, v1) (by simp))), hrun]
    · rw [streamOf, List.flatMap_cons, ← List.append_assoc]
      exact hholds

end BitUnpacker

/-! ## The scanned text -/

/-- A number below ten thousand as four digits. -/
def fourDigits (n : Nat) : Str := decimal 4 n

@[simp] lemma length_fourDigits (n : Nat) : (fourDigits n).length = 4 := length_decimal 4 n

lemma isDigit_fourDigits (n : Nat) : (fourDigits n).all Char.isDigit = true := isDigit_decimal 4 n

lemma ofDigits_fourDigits {n : Nat} (h : n < 10000) : ofDigits (fourDigits n) = n :=
  ofDigits_decimal_of_lt (w := 4) h

/-- Four digits are the four digits of a number. -/
lemma exists_fourDigits {chunk : Str} (hlen : chunk.length = 4)
    (hall : chunk.all Char.isDigit = true) : ∃ n < 10000, chunk = fourDigits n := by
  refine ⟨ofDigits chunk, ?_, ?_⟩
  · have hlt := ofDigits_lt hall
    rw [hlen] at hlt
    exact hlt
  · rw [fourDigits, ← hlen, decimal_ofDigits hall]

lemma maxChunkValue_eq : maxChunkValue = 8191 := rfl

/-- What is read of four digits. -/
lemma chunkValue_fourDigits {n : Nat} (h : n < 10000) :
    chunkValue (fourDigits n) =
      if n > 8191 then
        .err (.malformedChunk (fourDigits n) "chunk value exceeds the 13-bit maximum (8191)")
      else .ok n := by
  have hvalue := ofDigits_fourDigits h
  unfold chunkValue
  rw [if_neg (by simp), if_neg (by rw [isDigit_fourDigits]; decide),
    parseUnsigned_of_digits (List.ne_nil_of_length_pos (by simp)) (isDigit_fourDigits n)
      (by omega), hvalue,
    Outcome.ofOption_some, Outcome.ok_bind, maxChunkValue_eq]
  rfl

/-- A group is accepted exactly when it is the four digits of a number of thirteen bits. -/
lemma chunkValue_eq_ok {chunk : Str} {value : Nat} :
    chunkValue chunk = .ok value ↔ value ≤ 8191 ∧ chunk = fourDigits value := by
  constructor
  · intro h
    by_cases hlen : chunk.length = 4
    · by_cases hall : chunk.all Char.isDigit = true
      · obtain ⟨n, hn, rfl⟩ := exists_fourDigits hlen hall
        rw [chunkValue_fourDigits hn] at h
        split at h
        · simp at h
        · rename_i hmax
          obtain rfl := Outcome.ok.inj h
          exact ⟨Nat.le_of_not_lt hmax, rfl⟩
      · rw [chunkValue, if_neg (not_not.mpr hlen), if_pos hall] at h
        simp at h
    · rw [chunkValue, if_pos hlen] at h
      simp at h
  · rintro ⟨hmax, rfl⟩
    rw [chunkValue_fourDigits (by omega), if_neg (Nat.not_lt.mpr hmax)]

/-- The calls that a list of group values stands for. -/
def callsOf (values : List Nat) : List (UInt32 × UInt32) :=
  values.map fun value => (UInt32.ofNat value, 13)

lemma streamOf_callsOf {values : List Nat} (h : ∀ v ∈ values, v ≤ 8191) :
    BitUnpacker.streamOf (callsOf values) = values.flatMap (bitsLSB 13) := by
  rw [BitUnpacker.streamOf, callsOf, List.flatMap_map]
  refine List.flatMap_congr ?_
  intro v hv
  have hmax := h v hv
  show bitsLSB 13 (UInt32.ofNat v).toNat = bitsLSB 13 v
  rw [UInt32.toNat_ofNat_of_lt' (show v < UInt32.size by show v < 4294967296; omega)]

/-- Groups of thirteen bits go through, one call for each. -/
lemma unpackChunks_fourDigits {values : List Nat} (h : ∀ v ∈ values, v ≤ 8191) :
    unpackChunks (values.map fourDigits) = BitUnpacker.unpackAll (callsOf values) := by
  induction values with
  | nil => rfl
  | cons v rest ih =>
    have hvalue : chunkValue (fourDigits v) = .ok v :=
      chunkValue_eq_ok.mpr ⟨h v (by simp), rfl⟩
    rw [List.map_cons, unpackChunks, hvalue, ih fun w hw => h w (by simp [hw])]
    rfl

/-- And nothing else goes through. -/
lemma exists_values_of_unpackChunks {cs : List Str} {u u' : BitUnpacker}
    (h : unpackChunks cs u = (.ok (), u')) :
    ∃ values : List Nat, (∀ v ∈ values, v ≤ 8191) ∧ cs = values.map fourDigits := by
  induction cs generalizing u with
  | nil => exact ⟨[], by simp, rfl⟩
  | cons c rest ih =>
    unfold unpackChunks at h
    obtain ⟨v, hv, h⟩ := Proc.lift_bind_eq_ok.mp h
    obtain ⟨hmax, rfl⟩ := chunkValue_eq_ok.mp hv
    obtain ⟨_, u₁, _, h⟩ := Proc.bind_eq_ok.mp h
    obtain ⟨values, hvalues, rfl⟩ := ih h
    refine ⟨v :: values, ?_, rfl⟩
    intro w hw
    rcases List.mem_cons.mp hw with rfl | hw
    · exact hmax
    · exact hvalues w hw

lemma chunks_flatMap_fourDigits (values : List Nat) :
    chunks 4 (values.flatMap fourDigits) = values.map fourDigits := by
  rw [List.flatMap_def]
  refine chunks_flatten (by decide) ?_
  intro xs hxs
  obtain ⟨v, -, rfl⟩ := List.mem_map.mp hxs
  exact length_fourDigits v

/-- Groups of thirteen bits unpack to the whole bytes of their stream. -/
lemma unpackScannedString_fourDigits {values : List Nat} (h : ∀ v ∈ values, v ≤ 8191) :
    unpackScannedString (values.flatMap fourDigits) =
      .ok (wholeBytes (values.flatMap (bitsLSB 13))) := by
  have hwidths : ∀ call ∈ callsOf values, 1 ≤ call.2.toNat ∧ call.2.toNat ≤ 32 := by
    intro call hcall
    obtain ⟨v, -, rfl⟩ := List.mem_map.mp hcall
    show 1 ≤ (13 : UInt32).toNat ∧ (13 : UInt32).toNat ≤ 32
    decide
  obtain ⟨u, hrun, hholds⟩ := BitUnpacker.unpackAll_holds BitUnpacker.new_holds hwidths
  have hout := hholds.output_eq
  rw [List.nil_append, streamOf_callsOf h] at hout
  unfold unpackScannedString
  rw [chunks_flatMap_fourDigits, unpackChunks_fourDigits h, hrun]
  show Outcome.ok u.output = _
  rw [hout]

/-- `unpack_scanned_string` accepts exactly the texts made of groups of four digits that denote at
most 8191, and returns the whole bytes of the groups' stream. -/
lemma unpackScannedString_eq_ok {scanned : Str} {out : Bytes} :
    unpackScannedString scanned = .ok out ↔
      ∃ values : List Nat, (∀ v ∈ values, v ≤ 8191) ∧ scanned = values.flatMap fourDigits ∧
        out = wholeBytes (values.flatMap (bitsLSB 13)) := by
  constructor
  · intro h
    have hloop : ∃ u, unpackChunks (chunks 4 scanned) BitUnpacker.new = (.ok (), u) := by
      unfold unpackScannedString at h
      split at h
      · rename_i u hu
        exact ⟨u, hu⟩
      · simp at h
      · simp at h
    obtain ⟨u, hu⟩ := hloop
    obtain ⟨values, hvalues, hchunks⟩ := exists_values_of_unpackChunks hu
    have hscanned : scanned = values.flatMap fourDigits := by
      rw [← flatten_chunks (show 0 < 4 by decide) scanned, hchunks, List.flatMap_def]
    rw [hscanned, unpackScannedString_fourDigits hvalues] at h
    exact ⟨values, hvalues, hscanned, (Outcome.ok.inj h).symm⟩
  · rintro ⟨values, hvalues, rfl, rfl⟩
    exact unpackScannedString_fourDigits hvalues

/-! ## Packing -/

/-- The text a byte string is packed into: its bits in groups of thirteen, the last one filled up
with zeros, each group as four digits. -/
def packScanned (m : Bytes) : Str := (groups 13 (bytesBits m)).flatMap fourDigits

/-- Fewer than thirteen bits of filling make at most one more byte, and it is zero. -/
lemma unpackScannedString_packScanned (m : Bytes) :
    ∃ tail : Bytes, (tail = [] ∨ tail = [0]) ∧
      unpackScannedString (packScanned m) = .ok (m ++ tail) := by
  obtain ⟨k, hk, hstream⟩ := flatMap_groups (show 0 < 13 by decide) (bytesBits m)
  have hvalues : ∀ v ∈ groups 13 (bytesBits m), v ≤ 8191 := by
    intro v hv
    exact Nat.le_of_lt_succ (lt_of_mem_groups hv)
  refine ⟨List.replicate (k / 8) 0, ?_, ?_⟩
  · rcases Nat.lt_or_ge k 8 with hlt | hge
    · left
      rw [Nat.div_eq_of_lt hlt]
      rfl
    · right
      rw [show k / 8 = 1 by omega]
      rfl
  · rw [packScanned, unpackScannedString_fourDigits hvalues, hstream, replicate_false,
      ← List.append_assoc, ← bytesBits_append]
    rw [wholeBytes_bytesBits_append (by rw [List.length_replicate]; exact Nat.mod_lt _ (by decide))]

/-- Zero bytes behind an outer block change nothing. -/
lemma PanOuterBlock.parse_append_zeros {input tail : Bytes} {o : PanOuterBlock}
    (h : PanOuterBlock.parse input = .ok o) (htail : ∀ b ∈ tail, b = 0) :
    PanOuterBlock.parse (input ++ tail) = .ok o := by
  obtain ⟨pad, zeros, hpad, hzeros, ho, rfl⟩ := PanOuterBlock.parse_eq_ok.mp h
  refine PanOuterBlock.parse_eq_ok.mpr
    ⟨pad, zeros ++ tail, hpad, ?_, ho, List.append_assoc _ _ _⟩
  intro b hb
  rcases List.mem_append.mp hb with hb | hb
  · exact hzeros b hb
  · exact htail b hb

/-! ## The contract -/

/-- What unpacking owes to the bit stream. -/
structure UnpacksAsStream : Prop where
  /-- Any calls with widths from 1 to 32 succeed; the output is the whole bytes of their stream, and
  the bits left over are the low `b` bits of `a`, of which there are fewer than eight. -/
  stream : ∀ calls : List (UInt32 × UInt32),
    (∀ call ∈ calls, 1 ≤ call.2.toNat ∧ call.2.toNat ≤ 32) →
    ∃ u, BitUnpacker.unpackAll calls BitUnpacker.new = (.ok (), u) ∧
      u.output = wholeBytes (BitUnpacker.streamOf calls) ∧
      bitsLSB u.b u.a.toNat = leftover (BitUnpacker.streamOf calls) ∧
      u.a.toNat < 2 ^ u.b ∧ u.b < 8
  /-- The accepted texts are the groups of four digits that denote at most 8191. -/
  accepts : ∀ (scanned : Str) (out : Bytes), unpackScannedString scanned = .ok out ↔
    ∃ values : List Nat, (∀ v ∈ values, v ≤ 8191) ∧ scanned = values.flatMap fourDigits ∧
      out = wholeBytes (values.flatMap (bitsLSB 13))
  /-- Packing and unpacking gives the bytes and at most one zero, which the outer block tolerates. -/
  roundTrip : ∀ m : Bytes, ∃ tail : Bytes, (tail = [] ∨ tail = [0]) ∧
    unpackScannedString (packScanned m) = .ok (m ++ tail) ∧
    ∀ o, PanOuterBlock.parse m = .ok o → PanOuterBlock.parse (m ++ tail) = .ok o

/-- **Bit unpacking.**  The unpacker computes the whole bytes of the plain bit stream. -/
theorem unpacksAsStream : UnpacksAsStream where
  stream := by
    intro calls hcalls
    obtain ⟨u, hrun, hholds⟩ := BitUnpacker.unpackAll_holds BitUnpacker.new_holds hcalls
    rw [List.nil_append] at hholds
    exact ⟨u, hrun, hholds.output_eq, hholds.leftover_eq, hholds.value, hholds.count⟩
  accepts := fun _ _ => unpackScannedString_eq_ok
  roundTrip := by
    intro m
    obtain ⟨tail, htail, hrun⟩ := unpackScannedString_packScanned m
    refine ⟨tail, htail, hrun, ?_⟩
    intro o ho
    refine PanOuterBlock.parse_append_zeros ho ?_
    intro b hb
    rcases htail with rfl | rfl
    · simp at hb
    · simpa using hb

theorem unpacksAsStream_carry :
    ∃ u, BitUnpacker.unpackAll [(5749, 13), (1, 3)] BitUnpacker.new = (.ok (), u) ∧
      u.output = wholeBytes (BitUnpacker.streamOf [(5749, 13), (1, 3)]) := by
  obtain ⟨u, hrun, hout, -⟩ := unpacksAsStream.stream [(5749, 13), (1, 3)] (by simp)
  exact ⟨u, hrun, hout⟩

end IncometaxPanQr
