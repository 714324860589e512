import IdentityCrates.Aamva.Parser

/-!
# Encoding and parsing an AAMVA payload

A card is a header and a list of subfiles, each placed somewhere in the payload behind the table of
designators.  A payload is laid out for a card (`Laid`) when it starts with the card's header and
has each subfile where its designator says; what else stands in it, and whether subfiles overlap,
does not matter.

Such a payload is parsed to the card's header, to the map its elements make when they are inserted
from left to right, and to the dates that were written, in whichever of the two orders
(`parse_laid`).  The two orders cannot be confused: as a month, the century of a year between 1900
and 2099 is out of range (`Chrono.parseFromStr_century`).
-/

namespace Aamva

open Dmrtd (NaiveDate)
open Octets Rust
open Text hiding slice sliceFrom slice_eq sliceFrom_eq

/-! ## Cards -/

/-- The elements that are dates, with the fields they fill. -/
def dateFields : List (String × (AamvaLicense → Option NaiveDate)) :=
  [("DBB", (·.dateOfBirth)), ("DBD", (·.issueDate)), ("DBA", (·.expiryDate)),
    ("DDB", (·.cardRevisionDate)), ("DDH", (·.under18Until)), ("DDI", (·.under19Until)),
    ("DDJ", (·.under21Until))]

/-- The elements that are texts, with the fields they fill. -/
def textFields : List (String × (AamvaLicense → Option Str)) :=
  [("DCS", (·.familyName)), ("DAC", (·.firstName)), ("DAD", (·.middleName)),
    ("DCU", (·.nameSuffix)), ("DAQ", (·.documentNumber)), ("DCF", (·.documentDiscriminator)),
    ("DAJ", (·.jurisdiction)), ("DAG", (·.addressStreet1)), ("DAH", (·.addressStreet2)),
    ("DAI", (·.city)), ("DAK", (·.postalCode)), ("DCA", (·.vehicleClass)),
    ("DCB", (·.restrictions)), ("DCD", (·.endorsements))]

/-- The text of a date element and what it stands for: nothing, or a date between 1900 and 2099 in
one of the two orders. -/
inductive DateText : Str → Option NaiveDate → Prop
  | blank {value : Str} (h : ∀ c ∈ value, isWhitespace c = true) : DateText value none
  | usa {date : NaiveDate} (h : 1900 ≤ date.year ∧ date.year ≤ 2099) :
    DateText (decimal 2 date.month ++ (decimal 2 date.day ++ decimal 4 date.year.toNat)) (some date)
  | canada {date : NaiveDate} (h : 1900 ≤ date.year ∧ date.year ≤ 2099) :
    DateText (decimal 4 date.year.toNat ++ (decimal 2 date.month ++ decimal 2 date.day)) (some date)

/-- An element: a code of three ASCII characters and a value, without separators. -/
structure Element where
  code : Str
  value : Str
  code_length : code.length = 3
  code_ascii : IsAscii code
  free : ∀ c ∈ code ++ value, c ≠ '\n' ∧ c ≠ '\r'
  date : (∃ field ∈ dateFields, field.1.toList = code) → ∃ d, DateText value d

/-- A subfile: a type of two ASCII characters and a list of elements.  The line feed behind the last
element may be there or not. -/
structure Subfile where
  subfileType : Str
  type_length : subfileType.length = 2
  type_ascii : IsAscii subfileType
  elements : List Element
  closed : Bool

/-- A subfile and the position in the payload where it starts. -/
structure Placed where
  subfile : Subfile
  offset : Nat

/-- A card: the header, and from 1 to 99 subfiles. -/
structure Card where
  iin : Str
  iin_length : iin.length = 6
  iin_digits : iin.all Char.isDigit = true
  aamvaVersion : Nat
  aamvaVersion_lt : aamvaVersion < 100
  jurisdictionVersion : Nat
  jurisdictionVersion_lt : jurisdictionVersion < 100
  subfiles : List Placed
  count : 1 ≤ subfiles.length ∧ subfiles.length ≤ 99

/-- The bytes of an element. -/
def Element.encode (e : Element) : Bytes := Utf8.encode e.code ++ Utf8.encode e.value

/-- Elements with a line feed after each but perhaps the last, and the segment terminator. -/
def encodeElements (closed : Bool) : List Element → Bytes
  | [] => [segmentTerm]
  | [e] => e.encode ++ (if closed then [dataElementSep, segmentTerm] else [segmentTerm])
  | e :: es => e.encode ++ dataElementSep :: encodeElements closed es

/-- The bytes of a subfile. -/
def Subfile.encode (s : Subfile) : Bytes :=
  Utf8.encode s.subfileType ++ encodeElements s.closed s.elements

/-- The designator of a subfile. -/
def Placed.designator (p : Placed) : SubfileDesignator :=
  ⟨p.subfile.subfileType, p.offset, p.subfile.encode.length⟩

/-- The bytes of a designator: the type, and offset and length in four digits. -/
def encodeDesignator (d : SubfileDesignator) : Bytes :=
  Utf8.encode d.subfileType ++ (Utf8.encode (decimal 4 d.offset) ++
    Utf8.encode (decimal 4 d.length))

namespace Card

/-- The designators of the subfiles. -/
def designators (card : Card) : List SubfileDesignator := card.subfiles.map Placed.designator

/-- The header before the designators. -/
def front (card : Card) : Bytes :=
  [compliance, dataElementSep, recordSep, segmentTerm] ++ (ansiTag ++ (Utf8.encode card.iin ++
    (Utf8.encode (decimal 2 card.aamvaVersion) ++
      (Utf8.encode (decimal 2 card.jurisdictionVersion) ++
        Utf8.encode (decimal 2 card.subfiles.length)))))

/-- The table of designators. -/
def table (card : Card) : Bytes := card.designators.flatMap encodeDesignator

/-- The parsed header. -/
def header (card : Card) : AamvaHeader :=
  ⟨card.iin, card.aamvaVersion, card.jurisdictionVersion, card.subfiles.length, card.designators⟩

/-- All elements, in the order of the subfiles. -/
def elements (card : Card) : List Element := card.subfiles.flatMap fun p => p.subfile.elements

/-- All elements as entries. -/
def entries (card : Card) : List (Str × Str) := card.elements.map fun e => (e.code, e.value)

/-- The last value of a code. -/
def lastValue (card : Card) (code : String) : Option Str :=
  BTreeMap.lastOf card.entries code.toList

end Card

/-- A payload that starts with the card's header and has each subfile at its place. -/
structure Laid (card : Card) (payload : Bytes) : Prop where
  starts : Stands (card.front ++ card.table) payload 0
  behind : ∀ p ∈ card.subfiles, 21 + card.table.length ≤ p.offset
  offset_lt : ∀ p ∈ card.subfiles, p.offset < 10000
  length_lt : ∀ p ∈ card.subfiles, p.subfile.encode.length < 10000
  stands : ∀ p ∈ card.subfiles, Stands p.subfile.encode payload p.offset

/-! ## Elements -/

lemma isSeparator_iff {b : UInt8} : isSeparator b = true ↔ b = 0x0A ∨ b = 0x0D := by
  simp [isSeparator, dataElementSep, segmentTerm]

lemma length_encode_ascii {s : Str} (h : IsAscii s) : (Utf8.encode s).length = s.length := by
  rw [Utf8.length_encode, h.byteLen_eq]

/-- No byte of an element is a separator. -/
lemma Element.isSeparator_encode (e : Element) : ∀ b ∈ e.encode, isSeparator b = false := by
  intro b hb
  have hmem : b ∈ Utf8.encode (e.code ++ e.value) := by
    rw [Utf8.encode_append]
    exact hb
  rw [← Bool.not_eq_true, isSeparator_iff]
  intro hsep
  rcases hsep with rfl | rfl
  · exact (e.free _ (Utf8.mem_of_mem_encode (by decide) hmem)).1 rfl
  · exact (e.free _ (Utf8.mem_of_mem_encode (by decide) hmem)).2 rfl

/-- A piece that is an element goes into the map. -/
lemma insertElement_encode (elements : Elements) (e : Element) :
    insertElement elements e.encode = .ok (elements.insert e.code e.value) := by
  have hcode : (Utf8.encode e.code).length = 3 := by
    rw [length_encode_ascii e.code_ascii, e.code_length]
  have hlen : e.encode.length = 3 + (Utf8.encode e.value).length := by
    rw [Element.encode, List.length_append, hcode]
  have hne : ¬ e.encode.isEmpty = true := by
    rw [List.isEmpty_iff_length_eq_zero]
    omega
  have hslice : (slice e.encode 0 3 : Outcome AamvaError Bytes) = .ok (Utf8.encode e.code) :=
    (Stands.front (Utf8.encode e.code) (Utf8.encode e.value)).slice_eq hcode
  have hrest : (sliceFrom e.encode 3 : Outcome AamvaError Bytes) = .ok (Utf8.encode e.value) := by
    rw [sliceFrom_eq (by omega), Element.encode, List.drop_left' hcode]
  have hvalue : (e.value.rdropWhile fun c => c == '\r' || c == '\n') = e.value := by
    rw [List.rdropWhile_eq_self_iff]
    intro hl
    have hfree := e.free _ (List.mem_append_right e.code (List.getLast_mem hl))
    simp [hfree.1, hfree.2]
  unfold insertElement
  rw [if_neg hne, if_neg (by omega), hslice, Outcome.ok_bind, Utf8.decode_encode,
    Outcome.ofOption_some, Outcome.ok_bind, hrest, Outcome.ok_bind, Utf8.decode_encode,
    Outcome.ofOption_some, Outcome.ok_bind, hvalue]
  rfl

lemma insertElement_nil (elements : Elements) : insertElement elements [] = .ok elements := rfl

/-- The pieces of a subfile's elements are the elements and then nothing. -/
lemma splitOnP_encodeElements (closed : Bool) (es : List Element) :
    ∃ blanks : List Bytes, (∀ piece ∈ blanks, piece = []) ∧
      (encodeElements closed es).splitOnP isSeparator = es.map Element.encode ++ blanks := by
  have hterm : isSeparator segmentTerm = true := rfl
  have hsep : isSeparator dataElementSep = true := rfl
  induction es with
  | nil =>
    refine ⟨[[], []], by simp, ?_⟩
    simp [encodeElements, List.splitOnP_cons_eq_if_modifyHead, hterm]
  | cons e es ih =>
    cases es with
    | nil =>
      cases closed with
      | false =>
        refine ⟨[[]], by simp, ?_⟩
        have hsplit := List.splitOnP_append_cons_of_forall_mem e.isSeparator_encode segmentTerm
          hterm []
        rw [List.splitOnP_nil] at hsplit
        exact hsplit
      | true =>
        refine ⟨[[], []], by simp, ?_⟩
        have hsplit := List.splitOnP_append_cons_of_forall_mem e.isSeparator_encode dataElementSep
          hsep [segmentTerm]
        rw [List.splitOnP_cons_eq_if_modifyHead, if_pos hterm, List.splitOnP_nil] at hsplit
        exact hsplit
    | cons e' es =>
      obtain ⟨blanks, hblanks, hrest⟩ := ih
      refine ⟨blanks, hblanks, ?_⟩
      have hsplit := List.splitOnP_append_cons_of_forall_mem e.isSeparator_encode dataElementSep
        hsep (encodeElements closed (e' :: es))
      rw [hrest] at hsplit
      exact hsplit

lemma foldlM_insertElement_blank {blanks : List Bytes} (h : ∀ piece ∈ blanks, piece = [])
    (elements : Elements) : blanks.foldlM insertElement elements = .ok elements := by
  induction blanks with
  | nil => rfl
  | cons piece blanks ih =>
    rw [List.foldlM_cons, h piece List.mem_cons_self, insertElement_nil, Outcome.ok_bind]
    exact ih fun piece' hpiece => h piece' (List.mem_cons_of_mem _ hpiece)

lemma foldlM_insertElement_encode (es : List Element) (elements : Elements) :
    (es.map Element.encode).foldlM insertElement elements =
      .ok (elements.extend (es.map fun e => (e.code, e.value))) := by
  induction es generalizing elements with
  | nil => rfl
  | cons e es ih =>
    rw [List.map_cons, List.foldlM_cons, insertElement_encode, Outcome.ok_bind, ih]
    rfl

/-- The elements of a subfile go into the map one after the other. -/
lemma parseSubfileElements_encode (closed : Bool) (es : List Element) (elements : Elements) :
    parseSubfileElements (encodeElements closed es) elements =
      .ok (elements.extend (es.map fun e => (e.code, e.value))) := by
  obtain ⟨blanks, hblanks, hsplit⟩ := splitOnP_encodeElements closed es
  rw [parseSubfileElements, hsplit, List.foldlM_append, foldlM_insertElement_encode,
    Outcome.ok_bind, foldlM_insertElement_blank hblanks]

/-! ## The header -/

lemma asciiNumber_decimal {max w n : Nat} (hw : 0 < w) (hn : n < 10 ^ w) (hmax : n ≤ max)
    (field : String) : asciiNumber max (Utf8.encode (decimal w n)) field = .ok n := by
  rw [asciiNumber, asciiStr, Utf8.decode_encode, Outcome.ofOption_some, Outcome.ok_bind,
    parseUnsigned_decimal hw hn hmax, Outcome.ofOption_some]

lemma length_encode_decimal (w n : Nat) : (Utf8.encode (decimal w n)).length = w := by
  rw [length_encode_ascii (isAscii_digits (isDigit_decimal w n)), length_decimal]

lemma isAsciiDigit_encode {s : Str} (h : s.all Char.isDigit = true) :
    (Utf8.encode s).all isAsciiDigit = true := by
  induction s with
  | nil => rfl
  | cons c s ih =>
    rw [List.all_cons, Bool.and_eq_true] at h
    obtain ⟨d, hd, rfl⟩ := exists_digitChar h.1
    rw [Utf8.encode_cons, List.all_append, ih h.2, Bool.and_true]
    interval_cases d <;> decide

lemma length_iin (card : Card) : (Utf8.encode card.iin).length = 6 := by
  rw [length_encode_ascii (isAscii_digits card.iin_digits), card.iin_length]

lemma length_front (card : Card) : card.front.length = 21 := by
  simp only [Card.front, List.length_append, length_iin, length_encode_decimal, ansiTag,
    List.length_cons, List.length_nil]

section Header

variable {card : Card} {payload : Bytes} (h : Stands card.front payload 0)

include h

lemma checkMagic_front (hlen : minHeaderLen ≤ payload.length) :
    checkMagic payload = .ok () := by
  have hindex : (index payload 0 : Outcome AamvaError UInt8) = .ok compliance := by
    obtain ⟨before, after, hbefore, rfl⟩ := h
    obtain rfl := List.length_eq_zero_iff.mp hbefore
    rfl
  have hmagic : (slice payload 1 4 : Outcome AamvaError Bytes) =
      .ok [dataElementSep, recordSep, segmentTerm] := by
    have hpart : Stands ([compliance] ++ [dataElementSep, recordSep, segmentTerm]) payload 0 :=
      h.left
    exact hpart.right.slice_eq rfl
  have htag : (slice payload 4 9 : Outcome AamvaError Bytes) = .ok ansiTag :=
    h.right.left.slice_eq rfl
  unfold checkMagic
  rw [if_neg (by omega), hindex, Outcome.ok_bind, if_neg (not_not_intro rfl), hmagic,
    Outcome.ok_bind, if_neg (not_not_intro rfl), htag, Outcome.ok_bind, if_neg (not_not_intro rfl)]
  rfl

lemma parseIin_front : parseIin payload = .ok card.iin := by
  have hslice : (slice payload 9 15 : Outcome AamvaError Bytes) = .ok (Utf8.encode card.iin) :=
    h.right.right.left.slice_eq (length_iin card)
  unfold parseIin
  rw [hslice, Outcome.ok_bind, isAsciiDigit_encode card.iin_digits, if_neg (by decide), asciiStr,
    Utf8.decode_encode, Outcome.ofOption_some]

/-- The numbers of the header. -/
lemma slice_numbers :
    (slice payload 15 17 : Outcome AamvaError Bytes) =
        .ok (Utf8.encode (decimal 2 card.aamvaVersion)) ∧
      (slice payload 17 19 : Outcome AamvaError Bytes) =
        .ok (Utf8.encode (decimal 2 card.jurisdictionVersion)) ∧
      (slice payload 19 21 : Outcome AamvaError Bytes) =
        .ok (Utf8.encode (decimal 2 card.subfiles.length)) := by
  have hnumbers := h.right.right.right
  rw [length_iin] at hnumbers
  have hrest := hnumbers.right
  rw [length_encode_decimal] at hrest
  have hlast := hrest.right
  rw [length_encode_decimal] at hlast
  exact ⟨hnumbers.left.slice_eq (length_encode_decimal _ _),
    hrest.left.slice_eq (length_encode_decimal _ _),
    hlast.slice_eq (length_encode_decimal _ _)⟩

end Header

/-! ## The table of designators -/

/-- A designator that fits its fields. -/
structure SubfileDesignator.Fits (d : SubfileDesignator) : Prop where
  type_length : d.subfileType.length = 2
  type_ascii : IsAscii d.subfileType
  offset_lt : d.offset < 10000
  length_lt : d.length < 10000

namespace SubfileDesignator.Fits

variable {d : SubfileDesignator}

lemma length_type (h : d.Fits) : (Utf8.encode d.subfileType).length = 2 := by
  rw [length_encode_ascii h.type_ascii, h.type_length]

lemma length_encode (h : d.Fits) : (encodeDesignator d).length = 10 := by
  simp only [encodeDesignator, List.length_append, length_encode_decimal, h.length_type]

end SubfileDesignator.Fits

/-- A designator is read where it stands. -/
lemma parseDesignator_encode {payload : Bytes} {d : SubfileDesignator} (hfits : d.Fits)
    {cursor : Nat} (h : Stands (encodeDesignator d) payload cursor) (i : Nat) :
    parseDesignator payload i cursor = .ok d := by
  have hlen : ¬ cursor + 10 > payload.length := by
    have hle := h.length_le
    rw [hfits.length_encode] at hle
    omega
  have htype : (slice payload cursor (cursor + 2) : Outcome AamvaError Bytes) =
      .ok (Utf8.encode d.subfileType) := h.left.slice_eq hfits.length_type
  have hnumbers := h.right
  rw [hfits.length_type] at hnumbers
  have hoffset : (slice payload (cursor + 2) (cursor + 6) : Outcome AamvaError Bytes) =
      .ok (Utf8.encode (decimal 4 d.offset)) :=
    hnumbers.left.slice_eq (length_encode_decimal _ _)
  have hlast := hnumbers.right
  rw [length_encode_decimal] at hlast
  have hlength : (slice payload (cursor + 6) (cursor + 10) : Outcome AamvaError Bytes) =
      .ok (Utf8.encode (decimal 4 d.length)) := hlast.slice_eq (length_encode_decimal _ _)
  have hoffset_lt := hfits.offset_lt
  have hlength_lt := hfits.length_lt
  unfold parseDesignator
  rw [if_neg hlen, htype, Outcome.ok_bind, asciiStr, Utf8.decode_encode, Outcome.ofOption_some,
    Outcome.ok_bind, hoffset, Outcome.ok_bind, asciiDigitsU32,
    asciiNumber_decimal (by decide) (by omega) (by omega), Outcome.ok_bind, hlength,
    Outcome.ok_bind, asciiNumber_decimal (by decide) (by omega) (by omega), Outcome.ok_bind]
  rfl

/-- The loop reads a table of designators in order and stops behind it. -/
lemma parseDesignators_encode {payload : Bytes} {ds : List SubfileDesignator}
    (hfits : ∀ d ∈ ds, d.Fits) {cursor : Nat}
    (h : Stands (ds.flatMap encodeDesignator) payload cursor) (i : Nat)
    (found : List SubfileDesignator) :
    parseDesignators payload ds.length i cursor found =
      .ok (found ++ ds, cursor + (ds.flatMap encodeDesignator).length) := by
  induction ds generalizing cursor i found with
  | nil =>
    rw [List.append_nil]
    rfl
  | cons d ds ih =>
    have hd := hfits d List.mem_cons_self
    rw [List.flatMap_cons] at h
    have hrest := h.right
    rw [hd.length_encode] at hrest
    have hloop := ih (fun d' hd' => hfits d' (List.mem_cons_of_mem d hd')) hrest (i + 1)
      (found ++ [d])
    rw [List.length_cons, parseDesignators, parseDesignator_encode hd h.left, Outcome.ok_bind,
      hloop, List.append_assoc, List.flatMap_cons, List.length_append, hd.length_encode,
      Nat.add_assoc]
    rfl

/-! ## Subfiles -/

/-- A subfile is read where it stands, and its elements go into the map. -/
lemma parseSubfile_encode {payload : Bytes} {dataStart : Nat} {p : Placed}
    (hbehind : dataStart ≤ p.offset) (hfits : p.designator.Fits)
    (h : Stands p.subfile.encode payload p.offset) (elements : Elements) :
    parseSubfile payload dataStart elements p.designator =
      .ok (elements.extend (p.subfile.elements.map fun e => (e.code, e.value))) := by
  have hoffset := hfits.offset_lt
  have hlength := hfits.length_lt
  have htype : (Utf8.encode p.subfile.subfileType).length = 2 := hfits.length_type
  have hle := h.length_le
  have hadd : checkedAdd p.designator.offset p.designator.length =
      some (p.offset + p.subfile.encode.length) := by
    rw [checkedAdd, if_pos (by unfold usizeMax; omega)]
    rfl
  have hslice : (slice payload p.offset (p.offset + p.subfile.encode.length) :
      Outcome AamvaError Bytes) = .ok p.subfile.encode := h.slice_eq rfl
  have hlen : p.subfile.encode.length =
      2 + (encodeElements p.subfile.closed p.subfile.elements).length := by
    rw [Subfile.encode, List.length_append, htype]
  have htag : (slice p.subfile.encode 0 2 : Outcome AamvaError Bytes) =
      .ok (Utf8.encode p.subfile.subfileType) := (Stands.front _ _).slice_eq htype
  have hbody : (sliceFrom p.subfile.encode 2 : Outcome AamvaError Bytes) =
      .ok (encodeElements p.subfile.closed p.subfile.elements) := by
    rw [sliceFrom_eq (by omega), Subfile.encode, List.drop_left' htype]
  unfold parseSubfile
  dsimp only
  rw [if_neg (show ¬ p.designator.offset < dataStart from Nat.not_lt.mpr hbehind), hadd,
    Outcome.ofOption_some, Outcome.ok_bind, if_neg (by omega),
    show p.designator.offset = p.offset from rfl, hslice, Outcome.ok_bind, if_neg (by omega), htag,
    Outcome.ok_bind, show p.designator.subfileType = p.subfile.subfileType from rfl,
    if_neg (not_not_intro rfl), hbody, Outcome.ok_bind, parseSubfileElements_encode]

lemma foldlM_parseSubfile {payload : Bytes} {dataStart : Nat} {subfiles : List Placed}
    (h : ∀ p ∈ subfiles, dataStart ≤ p.offset ∧ p.designator.Fits ∧
      Stands p.subfile.encode payload p.offset) (elements : Elements) :
    (subfiles.map Placed.designator).foldlM (parseSubfile payload dataStart) elements =
      .ok (elements.extend ((subfiles.flatMap fun p => p.subfile.elements).map
        fun e => (e.code, e.value))) := by
  induction subfiles generalizing elements with
  | nil => rfl
  | cons p subfiles ih =>
    obtain ⟨hbehind, hfits, hstands⟩ := h p List.mem_cons_self
    rw [List.map_cons, List.foldlM_cons, parseSubfile_encode hbehind hfits hstands,
      Outcome.ok_bind, ih fun p' hp' => h p' (List.mem_cons_of_mem p hp'), List.flatMap_cons,
      List.map_append, BTreeMap.extend_append]

/-! ## Dates -/

/-- The text of a date is made of digits. -/
lemma isDigit_dateText {value : Str} {date : NaiveDate} (h : DateText value (some date)) :
    value.all Char.isDigit = true ∧ value ≠ [] := by
  have hne : ∀ (w n : Nat) (s : Str), decimal (w + 1) n ++ s ≠ [] := by
    intro w n s hnil
    have hlen := congrArg List.length hnil
    rw [List.length_append, length_decimal] at hlen
    simp at hlen
  cases h with
  | usa h =>
    refine ⟨?_, hne 1 _ _⟩
    simp only [List.all_append, isDigit_decimal, Bool.and_self]
  | canada h =>
    refine ⟨?_, hne 3 _ _⟩
    simp only [List.all_append, isDigit_decimal, Bool.and_self]

lemma trim_dateText {value : Str} {date : NaiveDate} (h : DateText value (some date)) :
    trim value = value :=
  trim_of_forall fun c hc =>
    Chrono.isWhitespace_of_isDigit (List.all_eq_true.mp (isDigit_dateText h).1 c hc)

/-- A date is read back from either order. -/
lemma parseDate_dateText {value : Str} {date : NaiveDate} (h : DateText value (some date))
    (element : String) : parseDate value element = .ok date := by
  unfold parseDate
  dsimp only
  rw [trim_dateText h]
  cases h with
  | usa h => rw [Chrono.parseFromStr_mdy (by omega)]
  | canada h =>
    -- read as a month, the century is too large
    rw [Chrono.parseFromStr_century (by omega), Chrono.parseFromStr_ymd (by omega)]

lemma getDate_dateText {elements : Elements} {code : String} {value : Str}
    {d : Option NaiveDate} (hget : elements.get? code.toList = some value)
    (h : DateText value d) : getDate elements code = .ok d := by
  unfold getDate
  rw [hget]
  dsimp only
  cases d with
  | none =>
    cases h with
    | blank h =>
      rw [trim_eq_nil h]
      rfl
  | some date =>
    rw [trim_dateText h, if_neg (by rw [List.isEmpty_iff]; exact (isDigit_dateText h).2),
      parseDate_dateText h]
    rfl

/-! ## The licence -/

/-- The height is read without a panic: the digits end where a character ends. -/
lemma exists_height (raw : Str) : ∃ height, Height.parse raw = .ok height := by
  unfold Height.parse
  dsimp only
  split
  · exact ⟨none, rfl⟩
  · split
    · exact ⟨none, rfl⟩
    · rename_i value hvalue
      have hrest := sliceFrom_append (ε := AamvaError) ((trim raw).takeWhile Char.isDigit)
        ((trim raw).dropWhile Char.isDigit)
      rw [List.takeWhile_append_dropWhile] at hrest
      rw [hrest]
      exact ⟨_, rfl⟩

lemma exists_getHeight (elements : Elements) :
    ∃ height, getHeight elements = .ok height := by
  unfold getHeight
  split
  · exact exists_height _
  · exact ⟨none, rfl⟩

/-- With its dates readable, a licence is built from the map. -/
lemma buildLicense_ok {elements : Elements}
    (hdates : ∀ field ∈ dateFields, ∃ d, getDate elements field.1 = .ok d)
    (subfiles : List SubfileDesignator) (iin : Str) (v jv n : Nat) :
    ∃ d, buildLicense elements subfiles iin v jv n = .ok d ∧
      d.header = some ⟨iin, v, jv, n, subfiles⟩ ∧ d.elements = elements ∧
      (∀ field ∈ textFields, field.2 d = get elements field.1) ∧
      ∀ field ∈ dateFields, getDate elements field.1 = .ok (field.2 d) := by
  simp only [dateFields, List.forall_mem_cons] at hdates
  obtain ⟨⟨_, h₁⟩, ⟨_, h₂⟩, ⟨_, h₃⟩, ⟨_, h₄⟩, ⟨_, h₅⟩, ⟨_, h₆⟩, ⟨_, h₇⟩, -⟩ := hdates
  obtain ⟨height, hheight⟩ := exists_getHeight elements
  unfold buildLicense
  simp only [h₁, h₂, h₃, h₄, h₅, h₆, h₇, hheight, Outcome.ok_bind]
  refine ⟨_, rfl, rfl, rfl, ?_, ?_⟩
  · simp only [textFields, List.forall_mem_cons, List.not_mem_nil, false_implies, implies_true,
      and_self]
  · simp only [dateFields, List.forall_mem_cons, h₁, h₂, h₃, h₄, h₅, h₆, h₇, List.not_mem_nil,
      false_implies, implies_true, and_self]

/-! ## Laid out payloads -/

/-- What a licence says of a card: its header, the map of its elements, in which the last element
with a code counts, and the texts and dates of the map. -/
structure Decoded (card : Card) (d : AamvaLicense) : Prop where
  header : d.header = some card.header
  elements : d.elements = BTreeMap.empty.extend card.entries
  last : ∀ code : String, d.elements.get? code.toList = card.lastValue code
  texts : ∀ field ∈ textFields,
    field.2 d = ((card.lastValue field.1).map trim).filter fun s => ¬ s.isEmpty
  absent : ∀ field ∈ dateFields, card.lastValue field.1 = none → field.2 d = none
  dates : ∀ field ∈ dateFields, ∀ value, card.lastValue field.1 = some value →
    ∃ date, DateText value date ∧ field.2 d = date
  either : ∀ field ∈ dateFields, ∀ value date, card.lastValue field.1 = some value →
    DateText value date → field.2 d = date

lemma get?_entries (card : Card) (code : String) :
    (BTreeMap.empty.extend card.entries : Elements).get? code.toList = card.lastValue code := by
  rw [BTreeMap.get?_extend, BTreeMap.get?_empty, Option.or_none]
  rfl

/-- The last value of a date element is the text of a date. -/
lemma dateText_of_lastValue {card : Card} {field : String × (AamvaLicense → Option NaiveDate)}
    (hfield : field ∈ dateFields) {value : Str} (h : card.lastValue field.1 = some value) :
    ∃ date, DateText value date := by
  have hmem : (field.1.toList, value) ∈ card.entries := BTreeMap.mem_of_lastOf h
  obtain ⟨e, -, he⟩ := List.mem_map.mp hmem
  obtain ⟨hcode, hvalue⟩ := Prod.mk.inj he
  rw [← hvalue]
  exact e.date ⟨field, hfield, hcode.symm⟩

lemma Laid.fits {card : Card} {payload : Bytes} (h : Laid card payload) {p : Placed}
    (hp : p ∈ card.subfiles) : p.designator.Fits :=
  ⟨p.subfile.type_length, p.subfile.type_ascii, h.offset_lt p hp, h.length_lt p hp⟩

/-- **Round trip.**  A payload laid out for a card is parsed to what the card says. -/
lemma parse_laid {card : Card} {payload : Bytes} (h : Laid card payload) :
    ∃ d, parse payload = .ok d ∧ Decoded card d := by
  have hfits : ∀ d ∈ card.designators, d.Fits := by
    intro d hd
    obtain ⟨p, hp, rfl⟩ := List.mem_map.mp hd
    exact h.fits hp
  have htable : Stands (card.designators.flatMap encodeDesignator) payload 21 := by
    have hright := h.starts.right
    rw [length_front] at hright
    exact hright
  have hlength : card.designators.length = card.subfiles.length := List.length_map _
  have hmin : minHeaderLen ≤ payload.length := by
    have hle := htable.length_le
    obtain ⟨d, ds, hds⟩ : ∃ d ds, card.designators = d :: ds :=
      List.exists_cons_of_length_pos (by rw [hlength]; exact card.count.1)
    have hlen := (hfits d (by rw [hds]; exact List.mem_cons_self)).length_encode
    rw [hds, List.flatMap_cons, List.length_append, hlen] at hle
    show 31 ≤ payload.length
    omega
  obtain ⟨hv, hjv, hn⟩ := slice_numbers h.starts.left
  have hcount := card.count
  have hdesignators := parseDesignators_encode hfits htable 0 []
  rw [hlength, List.nil_append] at hdesignators
  have hsubfiles := foldlM_parseSubfile (fun p hp => ⟨h.behind p hp, h.fits hp, h.stands p hp⟩)
    (BTreeMap.empty : Elements)
  have hdates : ∀ field ∈ dateFields,
      ∃ d, getDate (BTreeMap.empty.extend card.entries) field.1 = .ok d := by
    intro field hfield
    cases hlast : card.lastValue field.1 with
    | none =>
      refine ⟨none, ?_⟩
      rw [getDate, get?_entries, hlast]
    | some value =>
      obtain ⟨date, hdate⟩ := dateText_of_lastValue hfield hlast
      exact ⟨date, getDate_dateText (by rw [get?_entries, hlast]) hdate⟩
  obtain ⟨d, hbuild, hheader, helements, htexts, hfields⟩ := buildLicense_ok hdates card.designators
    card.iin card.aamvaVersion card.jurisdictionVersion card.subfiles.length
  have heither : ∀ field ∈ dateFields, ∀ value date, card.lastValue field.1 = some value →
      DateText value date → field.2 d = date := by
    intro field hfield value date hlast hdate
    have hget : getDate (BTreeMap.empty.extend card.entries) field.1 = .ok date :=
      getDate_dateText (by rw [get?_entries, hlast]) hdate
    exact Outcome.ok.inj ((hfields field hfield).symm.trans hget)
  refine ⟨d, ?_, hheader, helements, ?_, ?_, ?_, ?_, heither⟩
  · unfold parse
    rw [checkMagic_front h.starts.left hmin, Outcome.ok_bind, parseIin_front h.starts.left,
      Outcome.ok_bind, hv, Outcome.ok_bind, asciiDigits,
      asciiNumber_decimal (by decide) card.aamvaVersion_lt (by have := card.aamvaVersion_lt; omega),
      Outcome.ok_bind, hjv, Outcome.ok_bind,
      asciiNumber_decimal (by decide) card.jurisdictionVersion_lt
        (by have := card.jurisdictionVersion_lt; omega),
      Outcome.ok_bind, hn, Outcome.ok_bind, asciiNumber_decimal (by decide) (by omega) (by omega),
      Outcome.ok_bind, hdesignators, Outcome.ok_bind]
    show (card.subfiles.map Placed.designator).foldlM
      (parseSubfile payload (21 + card.table.length)) BTreeMap.empty >>= _ = _
    rw [hsubfiles, Outcome.ok_bind]
    exact hbuild
  · intro code
    rw [helements, get?_entries]
  · intro field hfield
    rw [htexts field hfield, get, get?_entries]
  · intro field hfield hlast
    have hget : getDate (BTreeMap.empty.extend card.entries) field.1 = .ok none := by
      rw [getDate, get?_entries, hlast]
    exact Outcome.ok.inj ((hfields field hfield).symm.trans hget)
  · intro field hfield value hlast
    obtain ⟨date, hdate⟩ := dateText_of_lastValue hfield hlast
    exact ⟨date, hdate, heither field hfield value date hlast hdate⟩

/-! ### Subfiles one behind the other -/

/-- Places for subfiles one behind the other. -/
def place : Nat → List Subfile → List Placed
  | _, [] => []
  | offset, s :: ss => ⟨s, offset⟩ :: place (offset + s.encode.length) ss

/-- Header, table and subfiles one behind the other. -/
def Card.payload (card : Card) : Bytes :=
  card.front ++ card.table ++ card.subfiles.flatMap fun p => p.subfile.encode

lemma stands_place {payload : Bytes} {offset : Nat} {ss : List Subfile}
    (h : Stands ((place offset ss).flatMap fun p => p.subfile.encode) payload offset) :
    ∀ p ∈ place offset ss, offset ≤ p.offset ∧ Stands p.subfile.encode payload p.offset := by
  induction ss generalizing offset with
  | nil => exact fun p hp => absurd hp List.not_mem_nil
  | cons s ss ih =>
    intro p hp
    rw [place, List.flatMap_cons] at h
    rcases List.mem_cons.mp hp with rfl | hp
    · exact ⟨le_rfl, h.left⟩
    · obtain ⟨hbehind, hstands⟩ := ih h.right p hp
      exact ⟨(Nat.le_add_right _ _).trans hbehind, hstands⟩

/-- Subfiles one behind the other are laid out, as long as the positions fit four digits. -/
lemma laid_payload {card : Card} {subfiles : List Subfile}
    (hplace : card.subfiles = place (21 + card.table.length) subfiles)
    (hoffset : ∀ p ∈ card.subfiles, p.offset < 10000)
    (hlength : ∀ p ∈ card.subfiles, p.subfile.encode.length < 10000) :
    Laid card card.payload := by
  have hbody : Stands (card.subfiles.flatMap fun p => p.subfile.encode) card.payload
      (21 + card.table.length) := by
    refine ⟨card.front ++ card.table, [], ?_, ?_⟩
    · rw [List.length_append, length_front]
    · rw [Card.payload, List.append_nil]
  have hplaced : ∀ p ∈ card.subfiles, 21 + card.table.length ≤ p.offset ∧
      Stands p.subfile.encode card.payload p.offset := by
    rw [hplace] at hbody
    intro p hp
    rw [hplace] at hp
    exact stands_place hbody p hp
  exact {
    starts := Stands.front _ _
    behind := fun p hp => (hplaced p hp).1
    offset_lt := hoffset
    length_lt := hlength
    stands := fun p hp => (hplaced p hp).2 }

/-! ## Panics -/

/-- A payload that passes the first checks is long enough for the slices behind them. -/
lemma length_of_checkMagic {payload : Bytes} (h : checkMagic payload = .ok ()) :
    minHeaderLen ≤ payload.length := by
  unfold checkMagic at h
  split at h
  · simp at h
  · omega

lemma slice_ne_panic {xs : Bytes} {a b : Nat} (hab : a ≤ b) (hb : b ≤ xs.length) :
    (slice xs a b : Outcome AamvaError Bytes) ≠ .panic := by
  rw [slice_eq hab hb]
  simp

lemma asciiStr_ne_panic (bytes : Bytes) (field : String) : asciiStr bytes field ≠ .panic :=
  Outcome.ofOption_ne_panic _ _

lemma asciiNumber_ne_panic (max : Nat) (bytes : Bytes) (field : String) :
    asciiNumber max bytes field ≠ .panic :=
  Outcome.bind_ne_panic (asciiStr_ne_panic _ _) fun _ _ => Outcome.ofOption_ne_panic _ _

lemma checkMagic_ne_panic (payload : Bytes) : checkMagic payload ≠ .panic := by
  unfold checkMagic
  split
  · simp
  · rename_i hlen
    have hmin : minHeaderLen = 31 := rfl
    obtain ⟨b, rest, rfl⟩ : ∃ b rest, payload = b :: rest :=
      List.exists_cons_of_length_pos (by omega)
    refine Outcome.bind_ne_panic (by rw [index_eq rfl]; simp) fun _ _ => ?_
    split
    · simp
    · refine Outcome.bind_ne_panic (slice_ne_panic (by decide) (by omega)) fun _ _ => ?_
      split
      · simp
      · refine Outcome.bind_ne_panic (slice_ne_panic (by decide) (by omega)) fun _ _ => ?_
        split <;> simp

lemma parseIin_ne_panic {payload : Bytes} (h : minHeaderLen ≤ payload.length) :
    parseIin payload ≠ .panic := by
  have hmin : minHeaderLen = 31 := rfl
  refine Outcome.bind_ne_panic (slice_ne_panic (by decide) (by omega)) fun _ _ => ?_
  split
  · simp
  · exact asciiStr_ne_panic _ _

lemma parseDesignator_ne_panic (payload : Bytes) (i cursor : Nat) :
    parseDesignator payload i cursor ≠ .panic := by
  unfold parseDesignator
  split
  · simp
  · refine Outcome.bind_ne_panic (slice_ne_panic (by omega) (by omega)) fun _ _ => ?_
    refine Outcome.bind_ne_panic (asciiStr_ne_panic _ _) fun _ _ => ?_
    refine Outcome.bind_ne_panic (slice_ne_panic (by omega) (by omega)) fun _ _ => ?_
    refine Outcome.bind_ne_panic (asciiNumber_ne_panic _ _ _) fun _ _ => ?_
    refine Outcome.bind_ne_panic (slice_ne_panic (by omega) (by omega)) fun _ _ => ?_
    exact Outcome.bind_ne_panic (asciiNumber_ne_panic _ _ _) fun _ _ => by simp

lemma parseDesignators_ne_panic (payload : Bytes) (n i cursor : Nat)
    (found : List SubfileDesignator) : parseDesignators payload n i cursor found ≠ .panic := by
  induction n generalizing i cursor found with
  | zero => simp [parseDesignators]
  | succ n ih =>
    exact Outcome.bind_ne_panic (parseDesignator_ne_panic _ _ _) fun _ _ => ih _ _ _

lemma foldlM_ne_panic {α β : Type} {f : β → α → Outcome AamvaError β} (hf : ∀ b a, f b a ≠ .panic)
    (xs : List α) (b : β) : xs.foldlM f b ≠ .panic := by
  induction xs generalizing b with
  | nil => simp
  | cons x xs ih =>
    rw [List.foldlM_cons]
    exact Outcome.bind_ne_panic (hf b x) fun _ _ => ih _

lemma insertElement_ne_panic (elements : Elements) (raw : Bytes) :
    insertElement elements raw ≠ .panic := by
  unfold insertElement
  split
  · simp
  · split
    · simp
    · refine Outcome.bind_ne_panic (slice_ne_panic (by decide) (by omega)) fun _ _ => ?_
      refine Outcome.bind_ne_panic (Outcome.ofOption_ne_panic _ _) fun _ _ => ?_
      refine Outcome.bind_ne_panic (slice_ne_panic (by omega) le_rfl) fun _ _ => ?_
      exact Outcome.bind_ne_panic (Outcome.ofOption_ne_panic _ _) fun _ _ => by simp

lemma parseSubfile_ne_panic (payload : Bytes) (dataStart : Nat) (elements : Elements)
    (d : SubfileDesignator) : parseSubfile payload dataStart elements d ≠ .panic := by
  unfold parseSubfile
  dsimp only
  split
  · simp
  · refine Outcome.bind_ne_panic (Outcome.ofOption_ne_panic _ _) fun stop hstop => ?_
    have hadd : d.offset ≤ stop := by
      rw [Outcome.ofOption_eq_ok, checkedAdd] at hstop
      split at hstop
      · have heq := Option.some.inj hstop
        omega
      · simp at hstop
    split
    · simp
    · refine Outcome.bind_ne_panic (slice_ne_panic hadd (by omega)) fun subfile _ => ?_
      split
      · simp
      · refine Outcome.bind_ne_panic (slice_ne_panic (by decide) (by omega)) fun _ _ => ?_
        split
        · simp
        · refine Outcome.bind_ne_panic (slice_ne_panic (by omega) le_rfl) fun _ _ => ?_
          exact foldlM_ne_panic insertElement_ne_panic _ _

lemma getDate_ne_panic (elements : Elements) (code : String) :
    getDate elements code ≠ .panic := by
  unfold getDate
  split
  · split
    · simp
    · refine Outcome.bind_ne_panic ?_ fun _ _ => by simp
      unfold parseDate
      dsimp only
      split
      · simp
      · split <;> simp
  · simp

lemma buildLicense_ne_panic (elements : Elements) (subfiles : List SubfileDesignator) (iin : Str)
    (v jv n : Nat) : buildLicense elements subfiles iin v jv n ≠ .panic := by
  unfold buildLicense
  iterate 7 refine Outcome.bind_ne_panic (getDate_ne_panic _ _) fun _ _ => ?_
  refine Outcome.bind_ne_panic ?_ fun _ _ => by simp
  obtain ⟨height, hheight⟩ := exists_getHeight elements
  rw [hheight]
  simp

lemma parse_ne_panic (payload : Bytes) : parse payload ≠ .panic := by
  refine Outcome.bind_ne_panic (checkMagic_ne_panic payload) fun _ hmagic => ?_
  have hlen := length_of_checkMagic hmagic
  have hmin : minHeaderLen = 31 := rfl
  refine Outcome.bind_ne_panic (parseIin_ne_panic hlen) fun _ _ => ?_
  refine Outcome.bind_ne_panic (slice_ne_panic (by decide) (by omega)) fun _ _ => ?_
  refine Outcome.bind_ne_panic (asciiNumber_ne_panic _ _ _) fun _ _ => ?_
  refine Outcome.bind_ne_panic (slice_ne_panic (by decide) (by omega)) fun _ _ => ?_
  refine Outcome.bind_ne_panic (asciiNumber_ne_panic _ _ _) fun _ _ => ?_
  refine Outcome.bind_ne_panic (slice_ne_panic (by decide) (by omega)) fun _ _ => ?_
  refine Outcome.bind_ne_panic (asciiNumber_ne_panic _ _ _) fun _ _ => ?_
  refine Outcome.bind_ne_panic (parseDesignators_ne_panic _ _ _ _ _) fun _ _ => ?_
  refine Outcome.bind_ne_panic (foldlM_ne_panic (parseSubfile_ne_panic _ _) _ _) fun _ _ => ?_
  exact buildLicense_ne_panic _ _ _ _ _ _

/-! ## The contract -/

/-- What the AAMVA parser promises. -/
structure EncodeParse : Prop where
  laid : ∀ (card : Card) (payload : Bytes), Laid card payload →
    ∃ d, parse payload = .ok d ∧ Decoded card d
  contiguous : ∀ (card : Card) (subfiles : List Subfile),
    card.subfiles = place (21 + card.table.length) subfiles →
    (∀ p ∈ card.subfiles, p.offset < 10000) →
    (∀ p ∈ card.subfiles, p.subfile.encode.length < 10000) → Laid card card.payload
  total : ∀ payload : Bytes, parse payload ≠ .panic

/-- **Encoding and parsing.** -/
theorem encodeParse : EncodeParse where
  laid := fun _ _ => parse_laid
  contiguous := fun _ _ => laid_payload
  total := parse_ne_panic

end Aamva
