import IdentityCrates.Dmrtd.Properties.SodLayout

/-!
# One encoding for each value

DER gives every value one encoding, and a reader that is strict about it accepts no other.  The
reader of `der.rs` is, for elements and for object identifiers: what it accepts as an element is the
tag, the length octets that DER prescribes, the contents and the rest, for contents of up to four
length octets (`Der.next_eq_some`); and what it accepts as an object identifier is the encoding of
the arcs it returns (`Der.encodeOid_of_oidArcs`).

The writer of the same crate, `push_len`, stops at three length octets.  So an element that is taken
apart and put together again is the same bytes below sixteen megabytes, and never above
(`Passive.reassembled_iff`).
-/

namespace Dmrtd

open Rust Octets

namespace Der

/-! ## Elements -/

/-- The high bit of an octet. -/
lemma and_msb_eq_zero_iff (b : UInt8) : b &&& 0x80 = 0 ↔ b.toNat < 0x80 :=
  forall_byte (P := fun b => b &&& 0x80 = 0 ↔ b.toNat < 0x80) (by decide +kernel) b

/-- The other seven. -/
lemma toNat_and_low (b : UInt8) : (b &&& 0x7f).toNat = b.toNat % 0x80 :=
  forall_byte (P := fun b => (b &&& 0x7f).toNat = b.toNat % 0x80) (by decide +kernel) b

/-- Octets that do not begin with a zero are as few as their number takes. -/
lemma log_ofBE {b : UInt8} (hb : b ≠ 0) (bs : Bytes) :
    Nat.log 256 (ofBE (b :: bs)) = bs.length :=
  Nat.log_eq_of_pow_le_of_lt_pow (pow_le_ofBE hb bs) (ofBE_lt (b :: bs))

/-- The minimal octets of a number that is not zero do not begin with a zero. -/
lemma head_toBE {n : Nat} (hn : n ≠ 0) : (toBE (Nat.log 256 n + 1) n).head? ≠ some 0 := by
  intro hhead
  obtain ⟨bs, hbs⟩ := List.head?_eq_some_iff.mp hhead
  have hlen := congrArg List.length hbs
  rw [length_toBE, List.length_cons] at hlen
  have hvalue := ofBE_toBE (Nat.log 256 n + 1) n
  rw [Nat.mod_eq_of_lt (Nat.lt_pow_succ_log_self (by decide) n), hbs, ofBE_cons] at hvalue
  have hlow := Nat.pow_log_le_self 256 hn
  have hhigh := ofBE_lt bs
  rw [← Nat.succ.inj hlen, UInt8.toNat_zero, Nat.zero_mul, Nat.zero_add] at *
  omega

/-- The long form, read backwards. -/
lemma lengthOctets_ofBE {b : UInt8} (hb : b ≠ 0) {bs : Bytes} (hlarge : 0x80 ≤ ofBE (b :: bs)) :
    lengthOctets (ofBE (b :: bs)) = UInt8.ofNat (0x80 + (b :: bs).length) :: b :: bs := by
  rw [lengthOctets, if_neg (by omega), log_ofBE hb, ← List.length_cons, toBE_ofBE]

/-- What the reader makes of length octets. -/
lemma nextLength_eq_some {firstLen : UInt8} {afterFirst body : Bytes} {len : Nat} :
    nextLength firstLen afterFirst = some (len, body) ↔
      len < 2 ^ 32 ∧ firstLen :: afterFirst = lengthOctets len ++ body := by
  have hfirst := firstLen.toNat_lt
  constructor
  · intro h
    unfold nextLength at h
    split at h
    · rename_i hshort
      obtain ⟨rfl, rfl⟩ := Prod.mk.inj (Option.some.inj h)
      rw [and_msb_eq_zero_iff] at hshort
      rw [lengthOctets, if_pos hshort, UInt8.ofNat_toNat]
      exact ⟨by omega, rfl⟩
    · rename_i hlong
      rw [and_msb_eq_zero_iff] at hlong
      simp only [toNat_and_low] at h
      split at h
      · simp at h
      rename_i hcount
      split at h
      · simp at h
      rename_i hhead
      split at h
      · simp at h
      rename_i hlarge
      obtain ⟨rfl, rfl⟩ := Prod.mk.inj (Option.some.inj h)
      have hlen : (afterFirst.take (firstLen.toNat % 0x80)).length = firstLen.toNat % 0x80 :=
        List.length_take_of_le (by omega)
      rcases hbytes : afterFirst.take (firstLen.toNat % 0x80) with _ | ⟨b, bs⟩
      · rw [hbytes, List.length_nil] at hlen
        omega
      rw [hbytes] at hlen hhead hlarge
      have hb : b ≠ 0 := by simpa using hhead
      refine ⟨?_, ?_⟩
      · calc ofBE (b :: bs) < 256 ^ (b :: bs).length := ofBE_lt _
          _ ≤ 256 ^ 4 := Nat.pow_le_pow_right (by decide) (by omega)
          _ = 2 ^ 32 := by norm_num
      · have hmark : UInt8.ofNat (0x80 + firstLen.toNat % 0x80) = firstLen := by
          apply UInt8.toNat_inj.mp
          rw [UInt8.toNat_ofNat']
          omega
        rw [lengthOctets_ofBE hb (by omega), hlen, hmark, List.cons_append, ← hbytes,
          List.take_append_drop]
  · rintro ⟨hlt, h⟩
    unfold lengthOctets at h
    split at h
    · rename_i hshort
      obtain ⟨rfl, rfl⟩ := List.cons.inj h
      have hvalue : (UInt8.ofNat len).toNat = len := by
        rw [UInt8.toNat_ofNat']
        omega
      rw [nextLength, if_pos ((and_msb_eq_zero_iff _).mpr (by omega)), hvalue]
    · rename_i hlong
      rw [List.cons_append] at h
      obtain ⟨rfl, rfl⟩ := List.cons.inj h
      have hlog : Nat.log 256 len < 4 := Nat.log_lt_of_lt_pow (by omega) (by omega)
      have hvalue : (UInt8.ofNat (0x80 + (Nat.log 256 len + 1))).toNat =
          0x80 + (Nat.log 256 len + 1) := by
        rw [UInt8.toNat_ofNat']
        omega
      have hcount : (UInt8.ofNat (0x80 + (Nat.log 256 len + 1)) &&& 0x7f).toNat =
          Nat.log 256 len + 1 := by
        rw [toNat_and_low, hvalue]
        omega
      have hoctets := length_toBE (Nat.log 256 len + 1) len
      rw [nextLength, if_neg (by rw [and_msb_eq_zero_iff, hvalue]; omega)]
      simp only [hcount, List.take_left' hoctets, List.drop_left' hoctets, ofBE_toBE,
        Nat.mod_eq_of_lt (Nat.lt_pow_succ_log_self (show 1 < 256 by decide) len)]
      rw [if_neg, if_neg (head_toBE (by omega)), if_neg hlong]
      rw [List.length_append, hoctets]
      omega

/-- **Elements.**  The reader splits an element off exactly where the input begins with its one DER
encoding, and the contents fill no more than four length octets. -/
lemma next_eq_some {input contents rest : Bytes} {tag : UInt8} :
    next input = some ⟨tag, contents, rest⟩ ↔
      input = encode tag contents ++ rest ∧ contents.length < 2 ^ 32 := by
  constructor
  · intro h
    match input, h with
    | [], h => simp [next] at h
    | [_], h => simp [next] at h
    | t :: firstLen :: afterFirst, h =>
      obtain ⟨⟨len, body⟩, hlen, h⟩ := Option.bind_eq_some_iff.mp h
      dsimp only at h
      split at h
      · simp at h
      rename_i henough
      obtain ⟨rfl, rfl, rfl⟩ := Element.mk.inj (Option.some.inj h)
      obtain ⟨hlt, hoctets⟩ := (nextLength_eq_some).mp hlen
      have hcontents : (body.take len).length = len := List.length_take_of_le (by omega)
      rw [encode, hcontents, hoctets, List.cons_append, List.append_assoc, List.take_append_drop]
      exact ⟨rfl, hlt⟩
  · rintro ⟨rfl, hlt⟩
    have hread : ∀ firstLen afterFirst, firstLen :: afterFirst =
        lengthOctets contents.length ++ (contents ++ rest) →
        next (tag :: firstLen :: afterFirst) = some ⟨tag, contents, rest⟩ := by
      intro firstLen afterFirst h
      have hlen := (nextLength_eq_some).mpr ⟨hlt, h⟩
      rw [next, hlen, Option.bind_eq_bind, Option.bind_some]
      simp only [List.length_append, List.take_left', List.drop_left']
      rw [if_neg (by omega)]
    rw [encode, List.cons_append, List.append_assoc]
    rcases hoctets : lengthOctets contents.length with _ | ⟨firstLen, more⟩
    · unfold lengthOctets at hoctets
      split at hoctets <;> simp at hoctets
    · rw [List.cons_append]
      exact hread firstLen _ (by rw [hoctets, List.cons_append])

/-! ## Object identifiers -/

/-- The groups of a number before its last one, each with the continuation bit. -/
def base128High (n : Nat) : Bytes :=
  if n = 0 then [] else base128High (n / 128) ++ [UInt8.ofNat (0x80 + n % 128)]

/-- A subidentifier: groups of seven bits, as few as it takes. -/
def base128 (n : Nat) : Bytes := base128High (n / 128) ++ [UInt8.ofNat (n % 128)]

/-- The contents octets of an object identifier. -/
def encodeOid : List Nat → Bytes
  | arc1 :: arc2 :: arcs => base128 (40 * arc1 + arc2) ++ arcs.flatMap base128
  | _ => []

@[simp]
lemma base128High_zero : base128High 0 = [] := by
  rw [base128High, if_pos rfl]

/-- The last group of a subidentifier. -/
lemma base128_last {value : Nat} {b : UInt8} (hlast : b &&& 0x80 = 0) :
    base128 (value * 128 + (b &&& 0x7f).toNat) = base128High value ++ [b] := by
  have hsmall := (and_msb_eq_zero_iff b).mp hlast
  have hlow : (b &&& 0x7f).toNat = b.toNat := by
    rw [toNat_and_low]
    omega
  rw [base128, hlow, show (value * 128 + b.toNat) / 128 = value by omega,
    show (value * 128 + b.toNat) % 128 = b.toNat by omega, UInt8.ofNat_toNat]

/-- A group that others follow. -/
lemma base128High_more {value : Nat} {b : UInt8} (hmore : ¬b &&& 0x80 = 0)
    (hpos : value * 128 + (b &&& 0x7f).toNat ≠ 0) :
    base128High (value * 128 + (b &&& 0x7f).toNat) = base128High value ++ [b] := by
  have hlarge : 0x80 ≤ b.toNat := by
    rw [and_msb_eq_zero_iff] at hmore
    omega
  have hbyte := b.toNat_lt
  have hlow := toNat_and_low b
  have hgroup : UInt8.ofNat (0x80 + (b &&& 0x7f).toNat) = b := by
    apply UInt8.toNat_inj.mp
    rw [UInt8.toNat_ofNat']
    omega
  rw [base128High, if_neg hpos,
    show (value * 128 + (b &&& 0x7f).toNat) / 128 = value by omega,
    show (value * 128 + (b &&& 0x7f).toNat) % 128 = (b &&& 0x7f).toNat by omega, hgroup]

/-- What the loop has read is what it would write.  Between two subidentifiers the value is zero, and
inside one it is not: no subidentifier opens with a zero group. -/
lemma subidentifiers_eq_some {contents : Bytes} {subids out : List Nat} {value : Nat} {fresh : Bool}
    (hfresh : fresh = true ↔ value = 0) (h : subidentifiers subids value fresh contents = some out) :
    ∃ more, out = subids ++ more ∧ more.flatMap base128 = base128High value ++ contents := by
  induction contents generalizing subids value fresh with
  | nil =>
    rw [subidentifiers] at h
    split at h
    · rename_i hdone
      obtain rfl := Option.some.inj h
      refine ⟨[], (List.append_nil _).symm, ?_⟩
      rw [hfresh.mp hdone, base128High_zero]
      rfl
    · simp at h
  | cons b contents ih =>
    rw [subidentifiers] at h
    split at h
    · simp at h
    rename_i hopen
    dsimp only at h
    split at h
    · simp at h
    split at h
    · rename_i hlast
      obtain ⟨more, rfl, hmore⟩ := ih (by simp) h
      refine ⟨(value * 128 + (b &&& 0x7f).toNat) :: more, by simp, ?_⟩
      rw [List.flatMap_cons, hmore, base128_last hlast, base128High_zero, List.nil_append,
        List.append_assoc, List.singleton_append]
    · rename_i hcontinued
      have hpos : value * 128 + (b &&& 0x7f).toNat ≠ 0 := by
        intro hzero
        have hvalue : value = 0 := by omega
        refine hopen ⟨hfresh.mpr hvalue, UInt8.toNat_inj.mp ?_⟩
        have hbyte := b.toNat_lt
        have hlow := toNat_and_low b
        rw [and_msb_eq_zero_iff] at hcontinued
        rw [show (0x80 : UInt8).toNat = 128 from rfl]
        omega
      obtain ⟨more, rfl, hmore⟩ := ih (by simpa using hpos) h
      refine ⟨more, rfl, ?_⟩
      rw [hmore, base128High_more hcontinued hpos, List.append_assoc]
      rfl

/-- **Object identifiers.**  Contents that are read as arcs are the encoding of these arcs. -/
lemma encodeOid_of_oidArcs {contents : Bytes} {arcs : List Nat} (h : oidArcs contents = some arcs) :
    encodeOid arcs = contents := by
  obtain ⟨subids, hsubids, h⟩ := Option.bind_eq_some_iff.mp h
  obtain ⟨more, hall, hmore⟩ := subidentifiers_eq_some (by simp) hsubids
  rw [List.nil_append] at hall
  subst hall
  rw [base128High_zero, List.nil_append] at hmore
  rcases subids with _ | ⟨first, subids⟩
  · simp at h
  rw [List.flatMap_cons] at hmore
  dsimp only at h
  split at h
  · obtain rfl := Option.some.inj h
    rw [encodeOid, Nat.div_add_mod, hmore]
  · rename_i hlarge
    obtain rfl := Option.some.inj h
    rw [encodeOid, show 40 * 2 + (first - 80) = first by omega, hmore]

/-- The reader is strict.  An element is read exactly from its tag, the minimal octets of its length,
its contents and what follows them, so that there is one encoding of it that is accepted; and
contents that give an object identifier are its encoding, so that no other contents give it. -/
theorem reader_strict :
    (∀ x tag contents rest, next x = some ⟨tag, contents, rest⟩ ↔
      x = tag :: (lengthOctets contents.length ++ contents) ++ rest ∧ contents.length < 2 ^ 32) ∧
    (∀ tag contents, contents.length < 2 ^ 32 → ∃! x, next x = some ⟨tag, contents, []⟩) ∧
    (∀ contents arcs, oidArcs contents = some arcs → encodeOid arcs = contents) ∧
    ∀ contents contents' arcs, oidArcs contents = some arcs → oidArcs contents' = some arcs →
      contents = contents' := by
  refine ⟨fun x tag contents rest => next_eq_some, fun tag contents hlen => ?_,
    fun contents arcs => encodeOid_of_oidArcs, fun contents contents' arcs h h' => ?_⟩
  · refine ⟨encode tag contents, next_eq_some.mpr ⟨(List.append_nil _).symm, hlen⟩, ?_⟩
    intro x hx
    rw [(next_eq_some.mp hx).1, List.append_nil]
  · rw [← encodeOid_of_oidArcs h, encodeOid_of_oidArcs h']

/-- Elements that follow one another are the encodings of what is read from them. -/
lemma elements_eq_some {input : Bytes} {els : List (UInt8 × Bytes)} (h : elements input = some els) :
    (els.map fun e => encode e.1 e.2).flatten = input ∧ ∀ e ∈ els, e.2.length < 2 ^ 32 := by
  refine elements_induction ?_ ?_ h
  · exact ⟨rfl, by simp⟩
  · rintro input e els hnext - ⟨hflat, hsmall⟩
    obtain ⟨hinput, hbound⟩ := (next_eq_some).mp hnext
    refine ⟨?_, List.forall_mem_cons.mpr ⟨hbound, hsmall⟩⟩
    rw [List.map_cons, List.flatten_cons, hflat, hinput]

end Der

/-! ## Elements put together again -/

namespace Passive

/-- `push_len` writes the length octets of DER up to sixteen megabytes, and no further. -/
lemma pushLen_eq_iff {n : Nat} : pushLen n = Der.lengthOctets n ↔ n < 2 ^ 24 := by
  constructor
  · intro h
    by_contra hlarge
    exact pushLen_ne (not_lt.mp hlarge) h
  · exact pushLen_eq

/-- The field of a SignedData that splits into elements is collected. -/
lemma collectCertificates_of_elements {field : Bytes} {els : List (UInt8 × Bytes)}
    (h : Der.elements field = some els) : collectCertificates field = .ok (els.map rewrapped) := by
  refine Der.elements_induction ?_ ?_ h
  · exact collectCertificates_nil
  · intro field e els hnext _ ih
    rw [collectCertificates_of_next hnext, ih]
    rfl

/-- One entry, taken apart and wrapped again. -/
lemma rewrapped_eq_iff (e : UInt8 × Bytes) :
    rewrapped e = Der.encode e.1 e.2 ↔ e.1 = Der.sequence ∧ e.2.length < 2 ^ 24 := by
  rw [rewrapped, Der.encode, List.cons.injEq, List.append_left_inj, pushLen_eq_iff]
  exact and_congr_left fun _ => eq_comm

/-- The signed attributes, taken apart and wrapped again. -/
lemma der_eq_iff {tag : UInt8} {field : Bytes} {attrs : SignedAttrs}
    (h : parseSignedAttrs field = .ok attrs) :
    attrs.der = Der.set :: (Der.encode tag field).tail ↔ field.length < 2 ^ 24 := by
  obtain ⟨⟨messageDigest, contentType⟩, -, h⟩ := Outcome.bind_eq_ok.mp h
  obtain ⟨digest, -, h⟩ := Outcome.bind_eq_ok.mp h
  obtain rfl := Outcome.ok.inj h
  rw [Der.encode, List.tail_cons, List.cons.injEq, List.append_left_inj, pushLen_eq_iff]
  exact and_iff_right rfl

/-- What is put together again is what was read, for contents below sixteen megabytes.  Of a field
of certificates that splits into elements, each entry comes back as its own bytes exactly if it is a
SEQUENCE with contents of that size; and signed attributes come back under the tag of a SET exactly
if the field has that size. -/
theorem reassembled_iff (field : Bytes) :
    (∀ els, Der.elements field = some els → ∃ originals certs,
      originals.flatten = field ∧
      List.Forall₂ (fun original e => Der.next original = some ⟨e.1, e.2, []⟩) originals els ∧
      collectCertificates field = .ok certs ∧
      ∀ (i : Nat) (e : UInt8 × Bytes), els[i]? = some e →
        (certs[i]? = originals[i]? ↔ e.1 = Der.sequence ∧ e.2.length < 2 ^ 24)) ∧
    ∀ original tag rest attrs, Der.next (original ++ rest) = some ⟨tag, field, rest⟩ →
      parseSignedAttrs field = .ok attrs →
      (attrs.der = 0x31 :: original.tail ↔ field.length < 2 ^ 24) := by
  constructor
  · intro els hels
    obtain ⟨hflat, hsmall⟩ := Der.elements_eq_some hels
    refine ⟨els.map fun e => Der.encode e.1 e.2, els.map rewrapped, hflat, ?_,
      collectCertificates_of_elements hels, ?_⟩
    · rw [List.forall₂_map_left_iff, List.forall₂_same]
      intro e he
      exact Der.next_eq_some.mpr ⟨(List.append_nil _).symm, hsmall e he⟩
    · intro i e he
      rw [List.getElem?_map, List.getElem?_map, he, Option.map_some, Option.map_some,
        Option.some.injEq, rewrapped_eq_iff]
  · intro original tag rest attrs hnext hattrs
    obtain ⟨hinput, -⟩ := Der.next_eq_some.mp hnext
    obtain rfl := List.append_cancel_right hinput
    exact der_eq_iff hattrs

/-- A field of a certificate and another entry, and signed attributes with a message digest. -/
theorem reassembled_iff_short :
    (∃ originals certs : List Bytes, originals.flatten = [0x30, 1, 5, 0xa1, 1, 6] ∧
      collectCertificates [0x30, 1, 5, 0xa1, 1, 6] = .ok certs ∧
      certs[0]? = originals[0]? ∧ certs[1]? ≠ originals[1]?) ∧
    ∃ attrs, parseSignedAttrs [0x30, 15, 6, 9, 0x2a, 0x86, 0x48, 0x86, 0xf7, 0x0d, 1, 9, 4, 0x31, 2,
        4, 0] = .ok attrs ∧
      attrs.der = [0x31, 17, 0x30, 15, 6, 9, 0x2a, 0x86, 0x48, 0x86, 0xf7, 0x0d, 1, 9, 4, 0x31, 2,
        4, 0] := by
  constructor
  · have hels : Der.elements [0x30, 1, 5, 0xa1, 1, 6] =
        some [(Der.sequence, [5]), (0xa1, [6])] := by
      rw [Der.elements_of_next (e := ⟨Der.sequence, [5], [0xa1, 1, 6]⟩) (by decide),
        Der.elements_of_next (e := ⟨0xa1, [6], []⟩) (by decide), Der.elements_nil]
      rfl
    obtain ⟨originals, certs, hflat, -, hcerts, hiff⟩ :=
      (reassembled_iff [0x30, 1, 5, 0xa1, 1, 6]).1 _ hels
    refine ⟨originals, certs, hflat, hcerts, (hiff 0 (Der.sequence, [5]) rfl).mpr (by decide), ?_⟩
    intro hsecond
    exact absurd ((hiff 1 (0xa1, [6]) rfl).mp hsecond).1 (by decide)
  · have hparse : parseSignedAttrs [0x30, 15, 6, 9, 0x2a, 0x86, 0x48, 0x86, 0xf7, 0x0d, 1, 9, 4, 0x31,
        2, 4, 0] = .ok {
          der := [0x31, 17, 0x30, 15, 6, 9, 0x2a, 0x86, 0x48, 0x86, 0xf7, 0x0d, 1, 9, 4, 0x31, 2, 4, 0]
          messageDigest := [], contentType := none } := by
      rw [parseSignedAttrs, foldAttributes_of_next (e := ⟨Der.sequence, [6, 9, 0x2a, 0x86, 0x48, 0x86,
        0xf7, 0x0d, 1, 9, 4, 0x31, 2, 4, 0], []⟩) (by decide), foldAttributes_nil]
      decide
    refine ⟨_, hparse, ?_⟩
    refine ((reassembled_iff _).2 [0xa0, 17, 0x30, 15, 6, 9, 0x2a, 0x86, 0x48, 0x86, 0xf7, 0x0d, 1, 9,
      4, 0x31, 2, 4, 0] 0xa0 [] _ ?_ hparse).mpr (by decide)
    decide

/-- An entry of sixteen megabytes is read, and does not come back: the three length octets written
for it say that it is empty. -/
theorem large_certificate_not_reassembled :
    ∃ contents : Bytes, contents.length = 2 ^ 24 ∧
      Der.next (Der.encode Der.sequence contents) = some ⟨Der.sequence, contents, []⟩ ∧
      ∃ cert, collectCertificates (Der.encode Der.sequence contents) = .ok [cert] ∧
        cert ≠ Der.encode Der.sequence contents ∧
        cert.take 5 = [Der.sequence, 0x83, 0, 0, 0] := by
  have hnext : Der.next (Der.encode Der.sequence (List.replicate (2 ^ 24) 0)) =
      some ⟨Der.sequence, List.replicate (2 ^ 24) 0, []⟩ := by
    refine Der.next_eq_some.mpr ⟨(List.append_nil _).symm, ?_⟩
    rw [List.length_replicate]
    exact Nat.pow_lt_pow_right (by decide) (by decide)
  have hels : Der.elements (Der.encode Der.sequence (List.replicate (2 ^ 24) 0)) =
      some [(Der.sequence, List.replicate (2 ^ 24) 0)] := by
    rw [Der.elements_of_next hnext, Der.elements_nil]
    rfl
  have hlen : pushLen (2 ^ 24) = [0x83, 0, 0, 0] := by decide
  refine ⟨List.replicate (2 ^ 24) 0, List.length_replicate, hnext,
    rewrapped (Der.sequence, List.replicate (2 ^ 24) 0), collectCertificates_of_elements hels, ?_, ?_⟩
  · intro heq
    have hsmall := ((rewrapped_eq_iff _).mp heq).2
    rw [List.length_replicate] at hsmall
    exact lt_irrefl _ hsmall
  · rw [rewrapped, List.length_replicate, hlen]
    rfl

end Passive

end Dmrtd
