import IdentityCrates.Dmrtd.Auth.Ecdsa
import IdentityCrates.Dmrtd.Properties.DerStrictness

/-!
# The encoding of an ECDSA signature

An ECDSA signature is a SEQUENCE of two positive INTEGERs, and DER has one encoding for it:
`derSignature`.  The crates that verify on five of the curves accept no other.  The reader of the
sixth is as strict about the three elements as `der.rs` is, but takes whatever stands in an INTEGER
for an unsigned number: leading zeros are skipped, and a negative number becomes a large positive
one.

`parse_der_uint`, which reads the integers of an RSA key in the same crate, accepts exactly the DER
contents of a positive number (`parseDerUint_eq_some`).  A signature that is accepted is the DER
encoding of its two numbers exactly if that reader would accept both INTEGERs
(`parseSignature_canonical_iff`).
-/

namespace Dmrtd

open Octets

namespace Der

/-! ## Encodings of one element -/

lemma length_lengthOctets_mono {m n : Nat} (h : m ≤ n) :
    (lengthOctets m).length ≤ (lengthOctets n).length := by
  unfold lengthOctets
  split
  · split
    · exact le_rfl
    · simp
  · rw [if_neg (by omega), List.length_cons, List.length_cons, length_toBE, length_toBE]
    have hlog := Nat.log_mono_right h (b := 256)
    omega

/-- Longer contents have a longer encoding. -/
lemma length_encode_lt {tag : UInt8} {contents contents' : Bytes}
    (h : contents.length < contents'.length) :
    (encode tag contents).length < (encode tag contents').length := by
  have hoctets := length_lengthOctets_mono h.le
  simp only [encode, List.length_cons, List.length_append]
  omega

lemma encode_inj {tag : UInt8} {contents contents' : Bytes}
    (h : encode tag contents = encode tag contents') : contents = contents' := by
  have hlen := congrArg List.length h
  have hsame : contents.length = contents'.length := by
    rcases lt_trichotomy contents.length contents'.length with hlt | heq | hgt
    · exact absurd hlen (length_encode_lt hlt).ne
    · exact heq
    · exact absurd hlen (length_encode_lt hgt).ne'
  rw [encode, encode, List.cons.injEq] at h
  exact (List.append_inj' h.2 hsame).2

/-- The first of two elements that follow one another. -/
lemma encode_append_inj {tag : UInt8} {contents contents' rest rest' : Bytes}
    (hlt : (encode tag contents ++ rest).length < 2 ^ 32)
    (h : encode tag contents ++ rest = encode tag contents' ++ rest') :
    contents = contents' ∧ rest = rest' := by
  have hshort (c r : Bytes) : c.length ≤ (encode tag c ++ r).length := by
    simp only [encode, List.length_append, List.length_cons]
    omega
  have hnext : next (encode tag contents ++ rest) = some ⟨tag, contents, rest⟩ :=
    next_eq_some.mpr ⟨rfl, (hshort contents rest).trans_lt hlt⟩
  have hnext' : next (encode tag contents ++ rest) = some ⟨tag, contents', rest'⟩ :=
    next_eq_some.mpr ⟨h, ((hshort contents' rest').trans_eq (congrArg List.length h.symm)).trans_lt hlt⟩
  obtain ⟨-, hcontents, hrest⟩ := Element.mk.inj (Option.some.inj (hnext.symm.trans hnext'))
  exact ⟨hcontents, hrest⟩

end Der

namespace Ecdsa

/-! ## Positive integers -/

/-- The contents of a DER INTEGER: as few octets as leave room for the sign. -/
def derUint (n : Nat) : Bytes := toBE (Nat.size n / 8 + 1) n

lemma ofBE_derUint (n : Nat) : ofBE (derUint n) = n := by
  have hlt : n < 256 ^ (Nat.size n / 8 + 1) := by
    rw [show (256 : Nat) = 2 ^ 8 from rfl, ← pow_mul]
    exact Nat.size_le.mp (by omega)
  rw [derUint, ofBE_toBE, Nat.mod_eq_of_lt hlt]

/-- Contents are minimal where the number they denote has the bits for them. -/
lemma eq_derUint_iff {contents : Bytes} (hne : contents ≠ []) :
    contents = derUint (ofBE contents) ↔ 8 * (contents.length - 1) ≤ Nat.size (ofBE contents) ∧
      Nat.size (ofBE contents) < 8 * contents.length := by
  have hpos := List.length_pos_iff.mpr hne
  constructor
  · intro h
    have hlen : contents.length = Nat.size (ofBE contents) / 8 + 1 := by
      rw [← length_toBE (Nat.size (ofBE contents) / 8 + 1) (ofBE contents), ← derUint, ← h]
    omega
  · intro h
    have hlen : Nat.size (ofBE contents) / 8 + 1 = contents.length := by omega
    rw [derUint, hlen, toBE_ofBE]

/-- The sign bit is clear where the number has fewer bits than the octets. -/
lemma size_lt_iff (b : UInt8) (bs : Bytes) :
    Nat.size (ofBE (b :: bs)) < 8 * (b :: bs).length ↔ b &&& 0x80 = 0 := by
  have hbs := ofBE_lt bs
  have hpow : (2 : Nat) ^ (8 * bs.length + 7) = 0x80 * 256 ^ bs.length := by
    rw [pow_add, pow_mul]
    exact Nat.mul_comm _ _
  rw [Der.and_msb_eq_zero_iff, List.length_cons, Nat.mul_add, Nat.lt_iff_add_one_le,
    show 8 * bs.length + 8 * 1 = 8 * bs.length + 7 + 1 from rfl, Nat.add_le_add_iff_right, Nat.size_le,
    hpow, ofBE_cons]
  constructor
  · intro h
    by_contra hlarge
    have hle := Nat.mul_le_mul_right (256 ^ bs.length) (not_lt.mp hlarge)
    omega
  · intro h
    have hle := Nat.mul_le_mul_right (256 ^ bs.length) (Nat.succ_le_of_lt h)
    rw [Nat.succ_mul] at hle
    omega

/-- Behind an octet that is not zero there are eight bits for every octet. -/
lemma le_size {b : UInt8} (hb : b ≠ 0) (bs : Bytes) :
    8 * bs.length ≤ Nat.size (ofBE (b :: bs)) := by
  refine (Nat.lt_size.mpr ?_).le
  rw [pow_mul]
  exact pow_le_ofBE hb bs

/-- The contents of two octets or more are minimal if the sign bit is clear, and a leading zero keeps
it so. -/
lemma eq_derUint_cons_iff (b0 b1 : UInt8) (rest : Bytes) :
    b0 :: b1 :: rest = derUint (ofBE (b0 :: b1 :: rest)) ↔
      b0 &&& 0x80 = 0 ∧ (b0 = 0 → ¬ b1 &&& 0x80 = 0) := by
  rw [eq_derUint_iff (List.cons_ne_nil _ _), size_lt_iff, and_comm]
  refine and_congr_right fun _ => ?_
  by_cases hb0 : b0 = 0
  · subst hb0
    rw [ofBE_zero_cons, ← size_lt_iff b1 rest, not_lt]
    simp
  · refine iff_of_true ?_ fun h => absurd h hb0
    simpa using le_size hb0 (b1 :: rest)

/-- The strict reader accepts exactly the DER contents of a positive number. -/
lemma parseDerUint_eq_some {contents : Bytes} {n : Nat} :
    parseDerUint contents = some n ↔ 0 < n ∧ contents = derUint n := by
  constructor
  · intro h
    have hvalue : ofBE contents = n ∧ contents = derUint (ofBE contents) := by
      rcases contents with _ | ⟨b0, _ | ⟨b1, rest⟩⟩
      · simp [parseDerUint] at h
      · rw [parseDerUint] at h
        split at h
        · simp at h
        rename_i hb0
        rw [not_or, not_not] at hb0
        refine ⟨Option.some.inj h, (eq_derUint_iff (List.cons_ne_nil _ _)).mpr ⟨by simp, ?_⟩⟩
        exact (size_lt_iff b0 []).mpr hb0.1
      · rw [parseDerUint] at h
        split at h
        · simp at h
        rename_i hsign
        rw [not_not] at hsign
        split at h
        · rename_i hb0
          split at h
          · simp at h
          rename_i hhigh
          refine ⟨?_, (eq_derUint_cons_iff b0 b1 rest).mpr ⟨hsign, fun _ => hhigh⟩⟩
          rw [hb0, ofBE_zero_cons]
          exact Option.some.inj h
        · rename_i hb0
          exact ⟨Option.some.inj h,
            (eq_derUint_cons_iff b0 b1 rest).mpr ⟨hsign, fun hzero => absurd hzero hb0⟩⟩
    obtain ⟨rfl, hcontents⟩ := hvalue
    exact ⟨(parseDerUint_bounds h).1, hcontents⟩
  · rintro ⟨hpos, hcontents⟩
    obtain rfl : ofBE contents = n := by rw [hcontents, ofBE_derUint]
    rcases contents with _ | ⟨b0, _ | ⟨b1, rest⟩⟩
    · simp at hpos
    · have hsign := (size_lt_iff b0 []).mp ((eq_derUint_iff (List.cons_ne_nil _ _)).mp hcontents).2
      have hb0 : b0 ≠ 0 := by
        rintro rfl
        simp at hpos
      rw [parseDerUint, if_neg (not_or.mpr ⟨not_not.mpr hsign, hb0⟩)]
    · obtain ⟨hsign, hlead⟩ := (eq_derUint_cons_iff b0 b1 rest).mp hcontents
      rw [parseDerUint, if_neg (not_not.mpr hsign)]
      by_cases hb0 : b0 = 0
      · rw [if_pos hb0, if_neg (hlead hb0), hb0, ofBE_zero_cons]
      · rw [if_neg hb0]

/-! ## Signatures -/

/-- The DER ECDSA-Sig-Value of two numbers. -/
def derSignature (r s : Nat) : Bytes :=
  Der.encode Der.sequence (Der.encode Der.integer (derUint r) ++ Der.encode Der.integer (derUint s))

/-- The contents of the two INTEGERs of a signature. -/
def signatureIntegers (signature : Bytes) : Option (Bytes × Bytes) := do
  let body ← Der.expect signature Der.sequence
  let (r, rest) ← Der.take body Der.integer
  let s ← Der.expect rest Der.integer
  some (r, s)

/-- What is a signature, and of which contents. -/
lemma signatureIntegers_eq_some {signature r s : Bytes} :
    signatureIntegers signature = some (r, s) ↔
      signature = Der.encode Der.sequence (Der.encode Der.integer r ++ Der.encode Der.integer s) ∧
        (Der.encode Der.integer r ++ Der.encode Der.integer s).length < 2 ^ 32 := by
  simp only [signatureIntegers, Option.bind_eq_bind, Option.bind_eq_some_iff]
  constructor
  · rintro ⟨body, hbody, ⟨r', rest⟩, hr, s', hs, h⟩
    obtain ⟨rfl, rfl⟩ := Prod.mk.inj (Option.some.inj h)
    obtain ⟨rfl, hlt⟩ := Der.next_eq_some.mp (Der.expect_eq_some.mp hbody)
    obtain ⟨rfl, -⟩ := Der.next_eq_some.mp (Der.take_eq_some.mp hr)
    obtain ⟨rfl, -⟩ := Der.next_eq_some.mp (Der.expect_eq_some.mp hs)
    simp only [List.append_nil] at hlt ⊢
    exact ⟨trivial, hlt⟩
  · rintro ⟨rfl, hlt⟩
    have hshort (tag : UInt8) (contents : Bytes) :
        contents.length ≤ (Der.encode tag contents).length := by
      rw [Der.encode, List.length_cons, List.length_append]
      omega
    have hr := hshort Der.integer r
    have hs := hshort Der.integer s
    rw [List.length_append] at hlt
    refine ⟨_, Der.expect_eq_some.mpr (Der.next_eq_some.mpr ⟨(List.append_nil _).symm, ?_⟩),
      (r, Der.encode Der.integer s), Der.take_eq_some.mpr (Der.next_eq_some.mpr ⟨rfl, by omega⟩),
      s, Der.expect_eq_some.mpr (Der.next_eq_some.mpr ⟨(List.append_nil _).symm, by omega⟩), rfl⟩
    rwa [List.length_append]

/-- The numbers of a signature are those of the two contents, taken as unsigned. -/
lemma parseSignature_eq_some {signature : Bytes} {r s : Nat} :
    parseSignature signature = some (r, s) ↔ ∃ rBytes sBytes,
      signatureIntegers signature = some (rBytes, sBytes) ∧ ofBE rBytes = r ∧ ofBE sBytes = s := by
  simp only [parseSignature, signatureIntegers, Option.bind_eq_bind, Option.bind_eq_some_iff]
  constructor
  · rintro ⟨body, hbody, ⟨rBytes, rest⟩, hr, ⟨sBytes, tail⟩, hs, h⟩
    dsimp only at hr hs h
    split at h
    · simp at h
    rename_i htail
    obtain rfl := not_not.mp htail
    obtain ⟨rfl, rfl⟩ := Prod.mk.inj (Option.some.inj h)
    refine ⟨rBytes, sBytes, ⟨body, hbody, (rBytes, rest), hr, sBytes, ?_, rfl⟩, rfl, rfl⟩
    exact Der.expect_eq_some.mpr (Der.take_eq_some.mp hs)
  · rintro ⟨rBytes, sBytes, ⟨body, hbody, ⟨rBytes', rest⟩, hr, sBytes', hs, h⟩, rfl, rfl⟩
    obtain ⟨rfl, rfl⟩ := Prod.mk.inj (Option.some.inj h)
    refine ⟨body, hbody, (rBytes', rest), hr, (sBytes', []), ?_, by simp⟩
    exact Der.take_eq_some.mpr (Der.expect_eq_some.mp hs)

/-- Both INTEGERs of the signature, if it is one, are the DER contents of a positive number: the
reader for the integers of an RSA key accepts them. -/
def StrictIntegers (signature : Bytes) : Prop :=
  ∀ r s, signatureIntegers signature = some (r, s) →
    (parseDerUint r).isSome ∧ (parseDerUint s).isSome

/-- The contents of a positive number are minimal exactly if the strict reader accepts them. -/
lemma isSome_parseDerUint_iff {contents : Bytes} (hpos : 0 < ofBE contents) :
    (parseDerUint contents).isSome ↔ contents = derUint (ofBE contents) := by
  rw [Option.isSome_iff_exists]
  constructor
  · rintro ⟨n, hn⟩
    obtain ⟨-, hcontents⟩ := parseDerUint_eq_some.mp hn
    rw [hcontents, ofBE_derUint]
  · exact fun h => ⟨_, parseDerUint_eq_some.mpr ⟨hpos, h⟩⟩

/-- A signature that is accepted for two positive numbers is their DER encoding, exactly if both of
its INTEGERs are minimal and not negative; and the DER encoding is accepted, as far as the lengths
can be written. -/
theorem parseSignature_canonical_iff {r s : Nat} (hr : 0 < r) (hs : 0 < s) :
    (∀ x, parseSignature x = some (r, s) → (x = derSignature r s ↔ StrictIntegers x)) ∧
    (parseSignature (derSignature r s) = some (r, s) ↔
      (Der.encode Der.integer (derUint r) ++ Der.encode Der.integer (derUint s)).length < 2 ^ 32) := by
  constructor
  · intro x hx
    obtain ⟨rBytes, sBytes, hints, rfl, rfl⟩ := parseSignature_eq_some.mp hx
    obtain ⟨hbytes, hlt⟩ := signatureIntegers_eq_some.mp hints
    constructor
    · intro hder r' s' hints'
      obtain ⟨rfl, rfl⟩ := Prod.mk.inj (Option.some.inj (hints.symm.trans hints'))
      have hbody := Der.encode_inj (hbytes.symm.trans hder)
      obtain ⟨hrBytes, hsBytes⟩ := Der.encode_append_inj hlt hbody
      exact ⟨(isSome_parseDerUint_iff hr).mpr hrBytes,
        (isSome_parseDerUint_iff hs).mpr (Der.encode_inj hsBytes)⟩
    · intro hstrict
      obtain ⟨hrBytes, hsBytes⟩ := hstrict rBytes sBytes hints
      rw [derSignature, ← (isSome_parseDerUint_iff hr).mp hrBytes,
        ← (isSome_parseDerUint_iff hs).mp hsBytes, hbytes]
  · rw [parseSignature_eq_some]
    constructor
    · rintro ⟨rBytes, sBytes, hints, rfl, rfl⟩
      obtain ⟨hbytes, hlt⟩ := signatureIntegers_eq_some.mp hints
      rwa [Der.encode_inj hbytes]
    · intro hlt
      exact ⟨derUint r, derUint s, signatureIntegers_eq_some.mpr ⟨rfl, hlt⟩, ofBE_derUint r,
        ofBE_derUint s⟩

/-- The signature of two ones. -/
theorem parseSignature_canonical_iff_ones :
    ([0x30, 6, 2, 1, 1, 2, 1, 1] = derSignature 1 1 ↔
      StrictIntegers [0x30, 6, 2, 1, 1, 2, 1, 1]) ∧
    parseSignature (derSignature 1 1) = some (1, 1) := by
  have hones := parseSignature_canonical_iff (show 0 < 1 by decide) (show 0 < 1 by decide)
  exact ⟨hones.1 _ (by decide), hones.2.mpr (by decide)⟩

/-- A leading zero gives a second encoding of the two ones, and a negative number is read as a
positive one. -/
theorem parseSignature_not_canonical :
    parseSignature [0x30, 6, 2, 1, 1, 2, 1, 1] = some (1, 1) ∧
    parseSignature [0x30, 7, 2, 2, 0, 1, 2, 1, 1] = some (1, 1) ∧
    parseSignature [0x30, 6, 2, 1, 0x80, 2, 1, 1] = some (0x80, 1) ∧
    derSignature 0x80 1 = [0x30, 7, 2, 2, 0, 0x80, 2, 1, 1] := by
  decide

end Ecdsa

end Dmrtd
