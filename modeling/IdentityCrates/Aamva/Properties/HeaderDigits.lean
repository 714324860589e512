import IdentityCrates.Aamva.Properties.EncodeParse

/-!
# The numbers of the header

The layout of an AAMVA payload has numbers of fixed width in the header and in the table of
designators.  If every one of them is digits, the header can be printed again from what was parsed,
and the bytes come back (`Spelled`).

The numbers are read with `str::parse`, which takes a plus sign in front of the digits: `+1` in two
places and `01` are one number.  And a count of `00` is a number like any other, although a header
has at least one designator and its least length counts one in.  These are the only ways in which an
accepted payload departs from the layout (`parse_spelled_iff`): a number that does not start with a
plus sign is digits, and a number of digits has one spelling in its width.
-/

namespace Aamva

open Octets Rust
open Text hiding slice sliceFrom slice_eq sliceFrom_eq

/-- The byte of the plus sign. -/
def plus : UInt8 := 0x2B

/-- The `n` bytes from position `i` on. -/
def bytesAt (payload : Bytes) (i n : Nat) : Bytes := (payload.drop i).take n

/-- The header and the table of designators in print. -/
def renderHeader (header : AamvaHeader) : Bytes :=
  [compliance, dataElementSep, recordSep, segmentTerm] ++ (ansiTag ++ (Utf8.encode header.iin ++
    (Utf8.encode (decimal 2 header.aamvaVersion) ++
      (Utf8.encode (decimal 2 header.jurisdictionVersion) ++
        (Utf8.encode (decimal 2 header.entryCount) ++
          header.subfiles.flatMap encodeDesignator)))))

/-- The payload starts with the header as the layout has it. -/
structure Spelled (payload : Bytes) (header : AamvaHeader) : Prop where
  version : (bytesAt payload 15 2).all isAsciiDigit = true
  jurisdiction : (bytesAt payload 17 2).all isAsciiDigit = true
  count : (bytesAt payload 19 2).all isAsciiDigit = true
  counted : 1 ≤ header.entryCount
  designators : ∀ i < header.entryCount,
    (bytesAt payload (21 + 10 * i + 2) 4).all isAsciiDigit = true ∧
      (bytesAt payload (21 + 10 * i + 6) 4).all isAsciiDigit = true
  rendered : renderHeader header = payload.take (21 + 10 * header.entryCount)

/-- The number of designators that the two bytes of the count announce. -/
def declaredCount (payload : Bytes) : Nat :=
  ofDigits ((bytesAt payload 19 2).map fun b => Char.ofNat b.toNat)

/-- No number starts with a plus sign, and the count is not zero. -/
structure Unsigned (payload : Bytes) : Prop where
  version : payload[15]? ≠ some plus
  jurisdiction : payload[17]? ≠ some plus
  count : payload[19]? ≠ some plus
  counted : declaredCount payload ≠ 0
  designators : ∀ i < declaredCount payload,
    payload[21 + 10 * i + 2]? ≠ some plus ∧ payload[21 + 10 * i + 6]? ≠ some plus

/-! ## Parts of the payload -/

lemma bytesAt_append (payload : Bytes) (i m n : Nat) :
    bytesAt payload i m ++ bytesAt payload (i + m) n = bytesAt payload i (m + n) := by
  rw [bytesAt, bytesAt, bytesAt, List.take_add, List.drop_drop]

lemma head?_bytesAt {payload : Bytes} {i n : Nat} (hn : 0 < n) :
    (bytesAt payload i n).head? = payload[i]? := by
  rw [bytesAt, List.head?_take, if_neg hn.ne', List.head?_drop]

lemma length_bytesAt {payload : Bytes} {i n : Nat} (h : i + n ≤ payload.length) :
    (bytesAt payload i n).length = n := by
  rw [bytesAt, List.length_take, List.length_drop]
  omega

lemma bytesAt_of_slice {payload part : Bytes} {a b : Nat}
    (h : (slice payload a b : Outcome AamvaError Bytes) = .ok part) :
    part = bytesAt payload a (b - a) := (slice_eq_ok h).2.2

/-! ## Numbers -/

/-- Digits do not start with a plus sign. -/
lemma ne_plus_of_digits {payload : Bytes} {i n : Nat} (hn : 0 < n)
    (h : (bytesAt payload i n).all isAsciiDigit = true) : payload[i]? ≠ some plus := by
  rw [← head?_bytesAt hn]
  intro hplus
  have hmem : plus ∈ bytesAt payload i n := List.mem_of_head? hplus
  exact absurd (List.all_eq_true.mp h plus hmem) (by decide)

/-- A number that does not start with a plus sign is digits, and its own print in their number. -/
lemma asciiNumber_digits {max n : Nat} {bytes : Bytes} {field : String}
    (h : asciiNumber max bytes field = .ok n) (hplus : bytes.head? ≠ some plus) :
    ∃ s : Str, s.all Char.isDigit = true ∧ bytes = Utf8.encode s ∧ n = ofDigits s := by
  obtain ⟨s, hs, hnumber⟩ := Outcome.bind_eq_ok.mp h
  obtain rfl := Utf8.decode_eq_some.mp (Outcome.ofOption_eq_ok.mp hs)
  have hhead : s.head? ≠ some '+' := by
    intro hs
    obtain ⟨rest, rfl⟩ := List.head?_eq_some_iff.mp hs
    exact hplus rfl
  obtain ⟨hdigits, hn⟩ := digits_of_parseUnsigned (Outcome.ofOption_eq_ok.mp hnumber) hhead
  exact ⟨s, hdigits, rfl, hn⟩

lemma asciiNumber_spelled {max n : Nat} {bytes : Bytes} {field : String}
    (h : asciiNumber max bytes field = .ok n) (hplus : bytes.head? ≠ some plus) {w : Nat}
    (hw : bytes.length = w) :
    bytes.all isAsciiDigit = true ∧ Utf8.encode (decimal w n) = bytes := by
  obtain ⟨s, hs, rfl, rfl⟩ := asciiNumber_digits h hplus
  rw [length_encode_ascii (isAscii_digits hs)] at hw
  exact ⟨isAsciiDigit_encode hs, by rw [← hw, decimal_ofDigits hs]⟩

lemma declaredCount_eq {payload : Bytes} {n : Nat} {field : String}
    (h : asciiDigits (bytesAt payload 19 2) field = .ok n) (hplus : payload[19]? ≠ some plus) :
    declaredCount payload = n := by
  rw [← head?_bytesAt (n := 2) (by decide)] at hplus
  obtain ⟨s, hs, hbytes, rfl⟩ := asciiNumber_digits h hplus
  have hascii : ∀ c ∈ s, c.toNat < 128 := by
    intro c hc
    obtain ⟨d, hd, rfl⟩ := exists_digitChar (List.all_eq_true.mp hs c hc)
    interval_cases d <;> decide
  rw [declaredCount, hbytes, Utf8.map_encode_of_ascii hascii]

/-! ## Designators -/

/-- What a designator is read from. -/
lemma parseDesignator_eq_ok {payload : Bytes} {i cursor : Nat} {d : SubfileDesignator}
    (h : parseDesignator payload i cursor = .ok d) :
    cursor + 10 ≤ payload.length ∧ Utf8.encode d.subfileType = bytesAt payload cursor 2 ∧
      asciiDigitsU32 (bytesAt payload (cursor + 2) 4) "subfile offset" = .ok d.offset ∧
      asciiDigitsU32 (bytesAt payload (cursor + 6) 4) "subfile length" = .ok d.length := by
  unfold parseDesignator at h
  split at h
  · cases h
  · rename_i hlen
    obtain ⟨typeBytes, htype, h⟩ := Outcome.bind_eq_ok.mp h
    obtain ⟨subfileType, hdecoded, h⟩ := Outcome.bind_eq_ok.mp h
    obtain ⟨offsetBytes, hoffset, h⟩ := Outcome.bind_eq_ok.mp h
    obtain ⟨offset, hoffsetNumber, h⟩ := Outcome.bind_eq_ok.mp h
    obtain ⟨lengthBytes, hlength, h⟩ := Outcome.bind_eq_ok.mp h
    obtain ⟨length, hlengthNumber, h⟩ := Outcome.bind_eq_ok.mp h
    obtain rfl := Outcome.ok.inj h
    have hfour₁ : cursor + 6 - (cursor + 2) = 4 := by omega
    have hfour₂ : cursor + 10 - (cursor + 6) = 4 := by omega
    have htwo : cursor + 2 - cursor = 2 := by omega
    rw [bytesAt_of_slice htype, htwo] at hdecoded
    rw [bytesAt_of_slice hoffset, hfour₁] at hoffsetNumber
    rw [bytesAt_of_slice hlength, hfour₂] at hlengthNumber
    exact ⟨by omega, (Utf8.decode_eq_some.mp (Outcome.ofOption_eq_ok.mp hdecoded)).symm,
      hoffsetNumber, hlengthNumber⟩

/-- Without plus signs a designator is its print. -/
lemma parseDesignator_spelled {payload : Bytes} {i cursor : Nat} {d : SubfileDesignator}
    (h : parseDesignator payload i cursor = .ok d)
    (hplus : payload[cursor + 2]? ≠ some plus ∧ payload[cursor + 6]? ≠ some plus) :
    ((bytesAt payload (cursor + 2) 4).all isAsciiDigit = true ∧
      (bytesAt payload (cursor + 6) 4).all isAsciiDigit = true) ∧
      encodeDesignator d = bytesAt payload cursor 10 := by
  obtain ⟨hlen, htype, hoffset, hlength⟩ := parseDesignator_eq_ok h
  rw [← head?_bytesAt (n := 4) (by decide), ← head?_bytesAt (i := cursor + 6) (n := 4) (by decide)]
    at hplus
  obtain ⟨hdigits₁, hprint₁⟩ :=
    asciiNumber_spelled hoffset hplus.1 (length_bytesAt (by omega))
  obtain ⟨hdigits₂, hprint₂⟩ :=
    asciiNumber_spelled hlength hplus.2 (length_bytesAt (by omega))
  refine ⟨⟨hdigits₁, hdigits₂⟩, ?_⟩
  rw [encodeDesignator, htype, hprint₁, hprint₂, bytesAt_append, bytesAt_append]

/-- Without plus signs the table is the print of what the loop finds. -/
lemma parseDesignators_spelled {payload : Bytes} {n i cursor stop : Nat}
    {found ds : List SubfileDesignator}
    (h : parseDesignators payload n i cursor found = .ok (ds, stop))
    (hplus : ∀ j < n, payload[cursor + 10 * j + 2]? ≠ some plus ∧
      payload[cursor + 10 * j + 6]? ≠ some plus) :
    (∀ j < n, (bytesAt payload (cursor + 10 * j + 2) 4).all isAsciiDigit = true ∧
      (bytesAt payload (cursor + 10 * j + 6) 4).all isAsciiDigit = true) ∧
      ∃ new, ds = found ++ new ∧ new.flatMap encodeDesignator = bytesAt payload cursor (10 * n) := by
  induction n generalizing i cursor found with
  | zero =>
    obtain ⟨rfl, -⟩ := Prod.mk.inj (Outcome.ok.inj h)
    exact ⟨fun j hj => absurd hj (Nat.not_lt_zero j), [], by simp, by simp [bytesAt]⟩
  | succ n ih =>
    obtain ⟨d, hd, h⟩ := Outcome.bind_eq_ok.mp h
    obtain ⟨hdigits, hprint⟩ := parseDesignator_spelled hd (hplus 0 (Nat.succ_pos n))
    have hstep : ∀ j, cursor + 10 * (j + 1) = cursor + 10 + 10 * j := fun j => by omega
    have hrest : ∀ j < n, payload[cursor + 10 + 10 * j + 2]? ≠ some plus ∧
        payload[cursor + 10 + 10 * j + 6]? ≠ some plus := by
      intro j hj
      rw [← hstep]
      exact hplus (j + 1) (Nat.succ_lt_succ hj)
    obtain ⟨hall, new, rfl, hnew⟩ := ih h hrest
    refine ⟨?_, d :: new, by rw [List.append_assoc]; rfl, ?_⟩
    · intro j hj
      cases j with
      | zero => exact hdigits
      | succ j =>
        rw [hstep]
        exact hall j (Nat.lt_of_succ_lt_succ hj)
    · rw [List.flatMap_cons, hprint, hnew, bytesAt_append]
      congr 1
      omega

/-! ## The header -/

/-- The first nine bytes of a payload that passes `checkMagic`. -/
lemma bytesAt_of_checkMagic {payload : Bytes} (h : checkMagic payload = .ok ()) :
    bytesAt payload 0 9 =
      [compliance, dataElementSep, recordSep, segmentTerm] ++ ansiTag := by
  unfold checkMagic at h
  split at h
  · cases h
  · obtain ⟨first, hfirst, h⟩ := Outcome.bind_eq_ok.mp h
    split at h
    · cases h
    · rename_i hcompliance
      obtain ⟨magic, hmagic, h⟩ := Outcome.bind_eq_ok.mp h
      split at h
      · cases h
      · rename_i hseparators
        obtain ⟨tag, htag, h⟩ := Outcome.bind_eq_ok.mp h
        split at h
        · cases h
        · rename_i hansi
          obtain rfl : first = compliance := not_not.mp hcompliance
          obtain rfl := not_not.mp hseparators
          obtain rfl : tag = ansiTag := not_not.mp hansi
          have hhead : bytesAt payload 0 1 = [compliance] := by
            obtain ⟨hzero, hget⟩ := List.getElem?_eq_some_iff.mp (index_eq_ok.mp hfirst)
            rw [bytesAt, List.drop_eq_getElem_cons hzero, List.take_succ_cons, List.take_zero, hget]
          rw [← bytesAt_append payload 0 4 5, ← bytesAt_append payload 0 1 3, hhead,
            ← bytesAt_of_slice hmagic, ← bytesAt_of_slice htag]
          rfl

lemma bytesAt_of_parseIin {payload : Bytes} {iin : Str} (h : parseIin payload = .ok iin) :
    bytesAt payload 9 6 = Utf8.encode iin := by
  obtain ⟨bytes, hbytes, h⟩ := Outcome.bind_eq_ok.mp h
  split at h
  · cases h
  · rw [← bytesAt_of_slice hbytes]
    exact Utf8.decode_eq_some.mp (Outcome.ofOption_eq_ok.mp h)

lemma header_of_buildLicense {elements : Elements} {subfiles : List SubfileDesignator} {iin : Str}
    {v jv n : Nat} {d : AamvaLicense}
    (h : buildLicense elements subfiles iin v jv n = .ok d) :
    d.header = some ⟨iin, v, jv, n, subfiles⟩ := by
  unfold buildLicense at h
  iterate 8 obtain ⟨_, _, h⟩ := Outcome.bind_eq_ok.mp h
  obtain rfl := Outcome.ok.inj h
  rfl

/-- What the header of an accepted payload is read from. -/
lemma parse_eq_ok {payload : Bytes} {d : AamvaLicense} (h : parse payload = .ok d) :
    ∃ iin v jv n ds stop, d.header = some ⟨iin, v, jv, n, ds⟩ ∧ minHeaderLen ≤ payload.length ∧
      bytesAt payload 0 9 = [compliance, dataElementSep, recordSep, segmentTerm] ++ ansiTag ∧
      bytesAt payload 9 6 = Utf8.encode iin ∧
      asciiDigits (bytesAt payload 15 2) "AAMVA version" = .ok v ∧
      asciiDigits (bytesAt payload 17 2) "jurisdiction version" = .ok jv ∧
      asciiDigits (bytesAt payload 19 2) "entry count" = .ok n ∧
      parseDesignators payload n 0 21 [] = .ok (ds, stop) := by
  obtain ⟨_, hmagic, h⟩ := Outcome.bind_eq_ok.mp h
  obtain ⟨iin, hiin, h⟩ := Outcome.bind_eq_ok.mp h
  obtain ⟨bytes₁, hbytes₁, h⟩ := Outcome.bind_eq_ok.mp h
  obtain ⟨v, hv, h⟩ := Outcome.bind_eq_ok.mp h
  obtain ⟨bytes₂, hbytes₂, h⟩ := Outcome.bind_eq_ok.mp h
  obtain ⟨jv, hjv, h⟩ := Outcome.bind_eq_ok.mp h
  obtain ⟨bytes₃, hbytes₃, h⟩ := Outcome.bind_eq_ok.mp h
  obtain ⟨n, hn, h⟩ := Outcome.bind_eq_ok.mp h
  obtain ⟨⟨ds, stop⟩, hds, h⟩ := Outcome.bind_eq_ok.mp h
  obtain ⟨elements, _, h⟩ := Outcome.bind_eq_ok.mp h
  rw [bytesAt_of_slice hbytes₁] at hv
  rw [bytesAt_of_slice hbytes₂] at hjv
  rw [bytesAt_of_slice hbytes₃] at hn
  exact ⟨iin, v, jv, n, ds, stop, header_of_buildLicense h, length_of_checkMagic hmagic,
    bytesAt_of_checkMagic hmagic, bytesAt_of_parseIin hiin, hv, hjv, hn, hds⟩

/-- **The header is digits.**  An accepted payload starts with its header as the layout has it
exactly when no number of it starts with a plus sign and its count is not zero. -/
theorem parse_spelled_iff {payload : Bytes} {d : AamvaLicense} (h : parse payload = .ok d) :
    (∃ header, d.header = some header ∧ Spelled payload header) ↔ Unsigned payload := by
  obtain ⟨iin, v, jv, n, ds, stop, hheader, hlen, hmagic, hiin, hv, hjv, hn, hds⟩ := parse_eq_ok h
  have hmin : minHeaderLen = 31 := rfl
  constructor
  · rintro ⟨header, hsome, hspelled⟩
    obtain rfl := Option.some.inj (hheader.symm.trans hsome)
    have hcount := ne_plus_of_digits (by decide) hspelled.count
    have hdeclared := declaredCount_eq hn hcount
    refine ⟨ne_plus_of_digits (by decide) hspelled.version,
      ne_plus_of_digits (by decide) hspelled.jurisdiction, hcount, ?_, ?_⟩
    · rw [hdeclared]
      exact Nat.one_le_iff_ne_zero.mp hspelled.counted
    · intro i hi
      rw [hdeclared] at hi
      obtain ⟨hoffset, hlength⟩ := hspelled.designators i hi
      exact ⟨ne_plus_of_digits (by decide) hoffset, ne_plus_of_digits (by decide) hlength⟩
  · intro hunsigned
    have hdeclared := declaredCount_eq hn hunsigned.count
    obtain ⟨hvDigits, hvPrint⟩ := asciiNumber_spelled hv
      (by rw [head?_bytesAt (by decide)]; exact hunsigned.version) (length_bytesAt (by omega))
    obtain ⟨hjvDigits, hjvPrint⟩ := asciiNumber_spelled hjv
      (by rw [head?_bytesAt (by decide)]; exact hunsigned.jurisdiction) (length_bytesAt (by omega))
    obtain ⟨hnDigits, hnPrint⟩ := asciiNumber_spelled hn
      (by rw [head?_bytesAt (by decide)]; exact hunsigned.count) (length_bytesAt (by omega))
    obtain ⟨htable, new, hfound, hnew⟩ := parseDesignators_spelled hds
      (by rw [← hdeclared]; exact hunsigned.designators)
    rw [List.nil_append] at hfound
    rw [← hfound] at hnew
    refine ⟨_, hheader, hvDigits, hjvDigits, hnDigits, ?_, htable, ?_⟩
    · rw [← hdeclared]
      exact Nat.one_le_iff_ne_zero.mpr hunsigned.counted
    · show renderHeader ⟨iin, v, jv, n, ds⟩ = payload.take (21 + 10 * n)
      rw [renderHeader, hvPrint, hjvPrint, hnPrint, hnew, ← hiin,
        ← List.append_assoc, ← hmagic, bytesAt_append, bytesAt_append, bytesAt_append,
        bytesAt_append, bytesAt_append, bytesAt, List.drop_zero]
      congr 1
      omega

/-- A payload with that version, and two subfiles with three elements between them. -/
def sampleHeader (version : Bytes) : Bytes :=
  [0x40, 0x0A, 0x1E, 0x0D] ++ Utf8.encode "ANSI 636000".toList ++ version ++
    Utf8.encode ("0002DL00410028ZC00690009".toList ++ "DLDAQD1234567\nDCSMUSTERMANN\r".toList ++
      "ZCZCAGRN\r".toList)

theorem parse_spelled_sample : ∃ d header, parse (sampleHeader [0x30, 0x31]) = .ok d ∧
    d.header = some header ∧ Spelled (sampleHeader [0x30, 0x31]) header := by
  have hok : (parse (sampleHeader [0x30, 0x31])).isOk = true := by decide +kernel
  obtain ⟨d, hd⟩ := Outcome.isOk_iff.mp hok
  obtain ⟨header, hheader, hspelled⟩ := (parse_spelled_iff hd).mpr
    ⟨by decide, by decide, by decide, by decide, by decide⟩
  exact ⟨d, header, hd, hheader, hspelled⟩

/-- A version of `+1` is accepted. -/
theorem parse_accepts_plus_sign : ¬ ∀ (payload : Bytes) (d : AamvaLicense),
    parse payload = .ok d → ∃ header, d.header = some header ∧ Spelled payload header := by
  intro h
  have hok : (parse (sampleHeader [0x2B, 0x31])).isOk = true := by decide +kernel
  obtain ⟨d, hd⟩ := Outcome.isOk_iff.mp hok
  obtain ⟨header, -, hspelled⟩ := h _ d hd
  exact absurd hspelled.version (by decide)

end Aamva
