import IdentityCrates.Dmrtd.Lds.EfDg11
import IdentityCrates.Dmrtd.Lds.TlvSet
import IdentityCrates.Dmrtd.Properties.FaceImage

/-!
# Loops over data objects

Three loops take a byte string apart into data objects: `TlvSet::decode`, the walk over the
biometric header of EF.DG2 and the field loop of EF.DG11.  They differ in what they do with an
object and with bytes that do not decode, and are one loop otherwise (`RecordFormat.walkTurn`).

An object takes up two bytes at least and no more than there are (`Tlv.Checked.decode_bounds`), so
each of them gets through every input: it ends, slices nothing out of range, and visits objects that
stand one behind the other.
-/

namespace Dmrtd

open Rust Octets

/-! ## The three loops -/

namespace TlvSet

/-- The loop gets through every byte string, and comes back with the objects of the set. -/
theorem decode_getsThrough (encodedData : Bytes) :
    Tlv.format.GetsThrough encodedData (decodeTurn encodedData) 0 []
      (.ok (decode encodedData).tlvs) := by
  show Tlv.format.GetsThrough encodedData (decodeTurn encodedData) 0 []
    (.ok (decodeFrom encodedData 0 []))
  rw [← walk_eq_decodeFrom]
  exact RecordFormat.getsThrough_walk (fun _ _ => by simp [absorb]) (fun _ _ => by simp [refuse])
    encodedData 0 []

/-- An object of a byte and an empty one behind it; a third does not decode. -/
example : Tlv.format.visited (decodeTurn [0x30, 0x01, 0xAA, 0x31, 0x00, 0x32])
    [0x30, 0x01, 0xAA, 0x31, 0x00, 0x32] 4 (0, []) =
      [(0, ⟨⟨0x30, 1⟩, [0xAA], 3⟩), (3, ⟨⟨0x31, 1⟩, [], 2⟩)] := by
  decide

end TlvSet

namespace EfDG2

/-- The loop gets through every byte string, wherever it starts. -/
theorem readElements_getsThrough (stream : Bytes) (start : Nat) :
    Tlv.format.GetsThrough stream (readBhtTurn stream) start []
      (readElements stream start []) := by
  rw [← walk_eq_readElements]
  exact RecordFormat.getsThrough_walk (fun _ _ => by simp [absorb]) (fun _ _ => by simp [refuse])
    stream start []

end EfDG2

namespace EfDG11

/-! ### No field makes the parser panic -/

lemma toDate_ne_panic (bytes : Bytes) : toDate bytes ≠ .panic := by
  have hbcd : ∀ byte, bcdToInt byte ≠ .panic := by
    intro byte
    unfold bcdToInt
    dsimp only
    split <;> simp
  unfold toDate
  split
  · refine Outcome.bind_ne_panic (hbcd _) fun _ _ => ?_
    refine Outcome.bind_ne_panic (hbcd _) fun _ _ => ?_
    refine Outcome.bind_ne_panic (hbcd _) fun _ _ => ?_
    refine Outcome.bind_ne_panic (hbcd _) fun _ _ => ?_
    split <;> simp
  · simp

lemma parseDateWithRef_ne_panic (s : Text.Str) (futureDate : Bool) (reference : NaiveDate) :
    parseDateWithRef s futureDate reference ≠ .panic := by
  unfold parseDateWithRef
  dsimp only
  split
  · simp
  split
  · unfold parseDateYymmddWithRef
    dsimp only
    split
    · simp
    · split <;> simp
  split
  · split <;> simp
  · simp

lemma parseFullDob_ne_panic (reference : NaiveDate) (value : Bytes) :
    parseFullDob reference value ≠ .panic := by
  unfold parseFullDob
  split
  · exact Outcome.mapErr_ne_panic (toDate_ne_panic _)
  split
  · simp
  · exact Outcome.mapErr_ne_panic (parseDateWithRef_ne_panic _ _ _)

/-- A field that is text, or a date, is stored or refused. -/
lemma store_ne_panic {α : Type} {x : Outcome EfParseError α} (h : x ≠ .panic)
    (store : α → EfDG11) : (x >>= fun a => pure (store a)) ≠ .panic :=
  Outcome.bind_ne_panic h fun _ _ => by simp

lemma absorb_ne_panic (reference : NaiveDate) (out : EfDG11) (tlv : DecodedTv) :
    absorb reference out tlv ≠ .panic := by
  have hutf8 : utf8 tlv.value ≠ .panic := Outcome.ofOption_ne_panic _ _
  have hdob := parseFullDob_ne_panic reference tlv.value
  unfold absorb absorbField
  -- the fields in the order of the source: three texts, the date, six texts, the image, two texts
  iterate 3 refine Outcome.ite_ne_panic (store_ne_panic hutf8 _) ?_
  refine Outcome.ite_ne_panic (store_ne_panic hdob _) ?_
  iterate 6 refine Outcome.ite_ne_panic (store_ne_panic hutf8 _) ?_
  refine Outcome.ite_ne_panic (by simp) ?_
  iterate 2 refine Outcome.ite_ne_panic (store_ne_panic hutf8 _) ?_
  simp

/-- The loop gets through every byte string, wherever it starts and whatever has been absorbed. -/
theorem readFields_getsThrough (reference : NaiveDate) (body : Bytes) (start : Nat) (out : EfDG11) :
    Tlv.format.GetsThrough body (fieldTurn reference body) start out
      (readFields reference body start out) :=
  RecordFormat.getsThrough_walk (absorb_ne_panic reference) (fun _ _ => by simp [refuse]) body start
    out

/-- No bytes make the parser panic. -/
lemma fromBytes_ne_panic (reference : NaiveDate) (encoded : Bytes) :
    fromBytes reference encoded ≠ .panic := by
  unfold fromBytes
  refine Outcome.bind_ne_panic (parseDgContent_ne_panic _ _) fun body _ => ?_
  refine Outcome.bind_ne_panic (Tlv.decode_mapErr_ne_panic _ _) fun tagListTlv _ => ?_
  split
  · simp
  · exact (readFields_getsThrough reference body _ _).noPanic

end EfDG11

/-! ## Progress -/

namespace Tlv

/-- A decoded object is two bytes at least and ends within its input, and its value is what stands
behind its header.  So the decoder and the three loops over objects slice nothing out of range, and
the loops end on every input and visit objects that stand one behind the other. -/
theorem loops_getThrough :
    (∀ bytes, Checked.decode bytes ≠ .panic ∧
      ∀ tv, Checked.decode bytes = .ok tv →
        2 ≤ tv.encodedLen ∧ tv.encodedLen ≤ bytes.length ∧
          ∃ tl, Checked.decodeTagAndLength bytes = .ok tl ∧ tv.tag = tl.tag ∧ 2 ≤ tl.encodedLen ∧
            slice bytes tl.encodedLen tv.encodedLen = (.ok tv.value : Outcome TlvError Bytes)) ∧
    (∀ encodedData, format.GetsThrough encodedData (TlvSet.decodeTurn encodedData) 0 []
      (.ok (TlvSet.decode encodedData).tlvs)) ∧
    (∀ stream, EfDG2.readBht stream ≠ .panic ∧
      ∀ bht, Checked.decode stream = .ok bht →
        format.GetsThrough stream (EfDG2.readBhtTurn stream) bht.encodedLen []
          (EfDG2.readElements stream bht.encodedLen [])) ∧
    (∀ reference encoded, EfDG11.fromBytes reference encoded ≠ .panic ∧
      ∀ body tagListTlv, parseDgContent encoded EfDG11.efDg11Tag = .ok body →
        Checked.decode body = .ok tagListTlv →
          format.GetsThrough body (EfDG11.fieldTurn reference body) tagListTlv.encodedLen
            (EfDG11.ofEncoded encoded)
            (EfDG11.readFields reference body tagListTlv.encodedLen (EfDG11.ofEncoded encoded))) := by
  refine ⟨fun bytes => ⟨Checked.decode_ne_panic bytes, fun tv h => Checked.decode_bounds h⟩,
    TlvSet.decode_getsThrough, fun stream => ⟨EfDG2.readBht_ne_panic stream, fun bht _ => ?_⟩,
    fun reference encoded => ⟨EfDG11.fromBytes_ne_panic reference encoded, fun body tlv _ _ => ?_⟩⟩
  · exact EfDG2.readElements_getsThrough stream bht.encodedLen
  · exact EfDG11.readFields_getsThrough reference body tlv.encodedLen _

end Tlv

end Dmrtd
