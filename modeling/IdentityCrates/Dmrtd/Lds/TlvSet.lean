import IdentityCrates.Dmrtd.Lds.TlvSlices

/-!
# Sequences of BER-TLV objects

`tlv_set.rs`: an ordered list of TLV objects, encoded one after the other and decoded until the
bytes run out or an object does not decode.

The objects that can be encoded are the ones a decoder can return: a tag that `Tlv.decodeTag` can
return and a value that a three-byte length can describe (`Tlv.Encodable`).  For these the decoder
undoes the encoder (`TlvSet.decode_toBytes`), because an object is read back to its last byte and no
further whatever follows it (`Tlv.decode_encode_of_isTag`).
-/

namespace Dmrtd

open Rust Octets

/-- The objects that have an encoding which decodes to them. -/
structure Tlv.Encodable (tlv : Tlv) : Prop where
  isTag : Tlv.IsTag tlv.tag
  fits : tlv.value.length ≤ 0xFFFFFF

instance (tlv : Tlv) : Decidable tlv.Encodable :=
  decidable_of_iff (Tlv.IsTag tlv.tag ∧ tlv.value.length ≤ 0xFFFFFF)
    ⟨fun h => ⟨h.1, h.2⟩, fun h => ⟨h.1, h.2⟩⟩

/-- `TlvSet`. -/
structure TlvSet where
  tlvs : List Tlv
  deriving DecidableEq, Repr

namespace TlvSet

/-- `TlvSet::to_bytes`, from the bytes written so far. -/
def toBytesFrom {ε : Type} (out : Bytes) : List Tlv → Outcome ε Bytes
  | [] => .ok out
  | tlv :: tlvs => do
    let bytes ← tlv.toBytes
    toBytesFrom (out ++ bytes) tlvs

/-- `TlvSet::to_bytes`. -/
def toBytes {ε : Type} (set : TlvSet) : Outcome ε Bytes := toBytesFrom [] set.tlvs

/-- The loop of `TlvSet::decode`, with the objects decoded so far.  An object that does not decode
ends the scan (`Tlv::decode` does not panic: `Tlv.decode_ne_panic`). -/
def decodeFrom (encodedData : Bytes) (offset : Nat) (tlvs : List Tlv) : List Tlv :=
  if offset < encodedData.length then
    match h : Tlv.decode (encodedData.drop offset) with
    | .ok decoded =>
      decodeFrom encodedData (offset + decoded.encodedLen)
        (tlvs ++ [⟨decoded.tag.value, decoded.value⟩])
    | .err _ => tlvs
    | .panic => tlvs
  else tlvs
termination_by encodedData.length - offset
decreasing_by
  have hlocal := (Tlv.decode_local h []).1
  omega

/-- `TlvSet::decode`. -/
def decode (encodedData : Bytes) : TlvSet := ⟨decodeFrom encodedData 0 []⟩

/-! ## The loop -/

/-- What the loop of `TlvSet::decode` does with an object. -/
def absorb (tlvs : List Tlv) (decoded : DecodedTv) : Outcome Empty (List Tlv) :=
  .ok (tlvs ++ [⟨decoded.tag.value, decoded.value⟩])

/-- Bytes that do not decode end it. -/
def refuse (tlvs : List Tlv) (_ : TlvError) : Outcome Empty (List Tlv) := .ok tlvs

/-- A turn of the loop, at an offset and with the objects decoded so far. -/
def decodeTurn (encodedData : Bytes) :
    Nat × List Tlv → Outcome Empty (Turn (Nat × List Tlv) (List Tlv)) :=
  Tlv.format.walkTurn absorb refuse encodedData

lemma walk_eq_decodeFrom (encodedData : Bytes) (offset : Nat) (tlvs : List Tlv) :
    Tlv.format.walk absorb refuse encodedData offset tlvs =
      .ok (decodeFrom encodedData offset tlvs) := by
  fun_induction decodeFrom encodedData offset tlvs with
  | case1 offset tlvs hlt decoded hdecode ih =>
    rw [RecordFormat.walk_of_ok ((Tlv.Checked.decode_eq _).trans hdecode)]
    exact ih
  | case2 offset tlvs hlt e he =>
    exact RecordFormat.walk_of_err hlt ((Tlv.Checked.decode_eq _).trans he)
  | case3 offset tlvs hlt hpanic => exact absurd hpanic (Tlv.decode_ne_panic _)
  | case4 offset tlvs hle => exact RecordFormat.walk_of_le (not_lt.mp hle)

/-- An object at the offset is decoded, and the loop goes on behind it. -/
lemma decodeFrom_of_ok {encodedData : Bytes} {offset : Nat} {decoded : DecodedTv}
    (h : Tlv.decode (encodedData.drop offset) = .ok decoded) (tlvs : List Tlv) :
    decodeFrom encodedData offset tlvs =
      decodeFrom encodedData (offset + decoded.encodedLen)
        (tlvs ++ [⟨decoded.tag.value, decoded.value⟩]) := by
  have hwalk := walk_eq_decodeFrom encodedData offset tlvs
  rw [RecordFormat.walk_of_ok ((Tlv.Checked.decode_eq _).trans h)] at hwalk
  exact Outcome.ok.inj (hwalk.symm.trans (walk_eq_decodeFrom ..))

/-! ## The encoding -/

lemma toBytesFrom_cons {ε : Type} {out bytes : Bytes} {tlv : Tlv} {tlvs : List Tlv}
    (h : (tlv.toBytes : Outcome ε Bytes) = .ok bytes) :
    (toBytesFrom out (tlv :: tlvs) : Outcome ε Bytes) = toBytesFrom (out ++ bytes) tlvs := by
  rw [toBytesFrom, h, Outcome.ok_bind]

/-- Decoding goes on behind an object that has been encoded. -/
lemma decodeFrom_toBytes {ε : Type} {tlv : Tlv} (htlv : tlv.Encodable) {bytes : Bytes}
    (h : (tlv.toBytes : Outcome ε Bytes) = .ok bytes) (before after : Bytes) (tlvs : List Tlv) :
    decodeFrom (before ++ bytes ++ after) before.length tlvs =
      decodeFrom (before ++ bytes ++ after) (before ++ bytes).length (tlvs ++ [tlv]) := by
  have hdecode := Tlv.decode_encode_of_isTag htlv.isTag h after
  have hdrop : (before ++ bytes ++ after).drop before.length = bytes ++ after := by
    rw [List.append_assoc, drop_append_of_length rfl]
  rw [← hdrop] at hdecode
  rw [decodeFrom_of_ok hdecode, List.length_append]

/-- Behind the objects decoded so far, the ones still to be encoded are read back in order. -/
lemma decodeFrom_toBytesFrom {ε : Type} {tlvs : List Tlv} (h : ∀ tlv ∈ tlvs, tlv.Encodable)
    (before : Bytes) (done : List Tlv) :
    ∃ out, (toBytesFrom before tlvs : Outcome ε Bytes) = .ok out ∧ before <+: out ∧
      decodeFrom out before.length done = done ++ tlvs := by
  induction tlvs generalizing before done with
  | nil =>
    refine ⟨before, rfl, List.prefix_rfl, ?_⟩
    rw [decodeFrom, if_neg (lt_irrefl _), List.append_nil]
  | cons tlv tlvs ih =>
    have htlv := h tlv (List.mem_cons_self ..)
    obtain ⟨bytes, hbytes⟩ := @Tlv.encode_isOk ε tlv.tag _ htlv.fits
    obtain ⟨out, hout, ⟨after, rfl⟩, hread⟩ :=
      ih (fun tlv' htlv' => h tlv' (List.mem_cons_of_mem _ htlv')) (before ++ bytes) (done ++ [tlv])
    refine ⟨_, (toBytesFrom_cons hbytes).trans hout, ?_, ?_⟩
    · rw [List.append_assoc]
      exact List.prefix_append _ _
    · rw [decodeFrom_toBytes htlv hbytes, hread, List.append_assoc, List.singleton_append]

/-- Objects that can be encoded are decoded to themselves, in order, however many there are and
whatever lengths their values have. -/
theorem decode_toBytes {ε : Type} (set : TlvSet) (h : ∀ tlv ∈ set.tlvs, tlv.Encodable) :
    ∃ out, (set.toBytes : Outcome ε Bytes) = .ok out ∧ decode out = set := by
  obtain ⟨out, hout, -, hread⟩ := decodeFrom_toBytesFrom h [] []
  refine ⟨out, hout, ?_⟩
  rw [decode]
  exact congrArg TlvSet.mk hread

/-- Objects under tags of one, two and four bytes, with values of 127 and 128 bytes. -/
theorem decode_toBytes_boundaries : ∃ out,
    (toBytes ⟨[⟨0x30, List.replicate 127 1⟩, ⟨0x7F49, List.replicate 128 2⟩, ⟨0x1F818201, []⟩]⟩ :
      Outcome Empty Bytes) = .ok out ∧
    decode out = ⟨[⟨0x30, List.replicate 127 1⟩, ⟨0x7F49, List.replicate 128 2⟩,
      ⟨0x1F818201, []⟩]⟩ :=
  decode_toBytes _ (by decide +kernel)

end TlvSet

end Dmrtd
