import IdentityCrates.MrzParser.Parser

/-!
# Long document numbers on scanned cards

A card whose document number has more than nine characters carries the rest of it, with the check
digit, at the start of the optional data, up to a filler (`LongZone`).  The parser is to return the
whole number and what follows the filler.

The TD1 parser cuts the continuation out of thirteen characters of the line, trims the fillers at
their end and takes the last character left for the check digit.  It does not stop at the first
filler.  Hence `LongNumberRead`: it is right on a card of no country with a pattern when the
check digit comes within those thirteen characters with only fillers after it in them.  The patterns
of the countries never span the filler at the place of the check digit, and the TD2 parser has no
case for it, so that neither ever returns a long number (`longNumber`).

Every wrong split is told from the right one by counting: the text that is returned as the document
number has more or fewer characters than the number, white space and fillers apart.
-/

namespace MrzParser

open Rust Text Icao

open Dmrtd (NaiveDate)

/-- A zone of the format `L` with the long document number `number`, which is what stands in front
of the first filler of the optional data, its check digit apart, and with `rest` behind the check
digit.  The dates are digits, or fillers where they are not known. -/
structure LongZone (L : Layout) (number rest data : Str) : Prop
    extends L.CarriesLong number rest data where
  overflow : '<' ∉ number.drop 9
  birthChars : ∀ c ∈ field data L.birthDate 6, c.isDigit = true ∨ c = '<'
  expiryChars : ∀ c ∈ field data L.expiryDate 6, c.isDigit = true ∨ c = '<'

/-- When the parser reads a long number back. -/
structure LongNumberRead (L : Layout) (today : NaiveDate) (number rest data : Str) : Prop where
  format : L = td1
  country : getCountryPattern (field data 0 30) = none
  first : number.head? ≠ some '<'
  room : number.length ≤ 21
  gap : ∀ c ∈ rest.take (21 - number.length), c = '<'
  birthDate : (parseBirthDate today (field data L.birthDate 6)).isOk = true
  expiryDate : (parseExpiryDate (field data L.expiryDate 6)).isOk = true

/-- What the parser is to return for a long number: the number, with spaces for its fillers as in
every number, and the optional data behind the filler that ends it. -/
def ReturnsLong (today : NaiveDate) (L : Layout) (number rest data : Str) : Prop :=
  ∃ r, parse today (some ((L.lines data).map some)) = .ok r ∧
    r.documentNumber = replaceAngleBracketsWithSpaces number ∧
    r.personalNumber = parseOptionalData (rest.drop 1)

/-! ## Counting -/

/-- How many characters of a text are not fillers. -/
def countChars (s : Str) : Nat := (s.filter (· ≠ '<')).length

lemma countChars_append (s t : Str) : countChars (s ++ t) = countChars s + countChars t := by
  rw [countChars, List.filter_append, List.length_append, countChars, countChars]

lemma countChars_le (s : Str) : countChars s ≤ s.length := List.length_filter_le _ _

lemma countChars_eq_length {s : Str} (h : '<' ∉ s) : countChars s = s.length := by
  rw [countChars, List.filter_eq_self.mpr]
  intro c hc
  exact decide_eq_true fun heq => h (heq ▸ hc)

/-- A field that reads as a number with its fillers as spaces has as many characters as it. -/
lemma countChars_of_parse {s number : Str} (hs : ∀ c ∈ s, IsMrzChar c)
    (hnumber : ∀ c ∈ number, IsMrzChar c)
    (h : parseDocumentNumber s = replaceAngleBracketsWithSpaces number) :
    countChars s = countChars number := by
  have hfilter := congrArg (List.filter fun c => !isWhitespace c) h
  rw [parseDocumentNumber, filter_trimField hs, filter_replaceAngleBracketsWithSpaces hnumber]
    at hfilter
  rw [countChars, hfilter, countChars]

/-- A number that is returned with spaces for its fillers does not start with one. -/
lemma head_ne_filler {s number : Str}
    (h : parseDocumentNumber s = replaceAngleBracketsWithSpaces number) :
    number.head? ≠ some '<' := by
  intro hhead
  have hspace : (parseDocumentNumber s).head? = some ' ' := by
    rw [h, replaceAngleBracketsWithSpaces, replaceChar, List.head?_map, hhead]
    rfl
  have hnot := isWhitespace_head_trim hspace
  exact absurd hnot (by decide)

/-- A number that neither starts nor ends with a filler reads as it stands. -/
lemma parseDocumentNumber_eq {number : Str} (hchars : ∀ c ∈ number, IsMrzChar c)
    (hhead : number.head? ≠ some '<') (hlast : number.getLast? ≠ some '<') :
    parseDocumentNumber number = replaceAngleBracketsWithSpaces number := by
  unfold parseDocumentNumber trimField trim
  rcases List.eq_nil_or_concat' number with rfl | ⟨init, z, hz⟩
  · rfl
  · have hnotSpace : ∀ c ∈ number, c ≠ '<' →
        isWhitespace (if c = '<' then ' ' else c) = false := by
      intro c hc hne
      rw [isWhitespace_replaced (hchars c hc)]
      exact decide_eq_false hne
    have hstart : trimStart (replaceAngleBracketsWithSpaces number) =
        replaceAngleBracketsWithSpaces number := by
      cases number with
      | nil => rfl
      | cons a rest =>
        have ha := hnotSpace a List.mem_cons_self fun heq => hhead (by rw [heq]; rfl)
        rw [replaceAngleBracketsWithSpaces, replaceChar, List.map_cons, trimStart,
          List.dropWhile_cons_of_neg (by simp [ha])]
    have hend := hnotSpace z (by rw [hz]; simp) fun heq => hlast (by rw [hz, heq]; simp)
    rw [hstart, hz, replaceAngleBracketsWithSpaces, replaceChar, List.map_append, List.map_singleton,
      trimEnd, List.rdropWhile_concat_neg _ _ _ (by simp [hend])]

/-- A filler at the start of the optional data makes no difference. -/
lemma parseOptionalData_drop {rest : Str} (h : ∀ c ∈ rest.head?, c = '<') :
    parseOptionalData rest = parseOptionalData (rest.drop 1) := by
  cases rest with
  | nil => rfl
  | cons c more =>
    obtain rfl : c = '<' := h c rfl
    unfold parseOptionalData trimField trim
    congr 1

/-! ## The continuation of a TD1 number -/

section Continuation

variable {L : Layout} {number rest data : Str}

/-- What the TD1 parser takes for the continuation of the number. -/
def tmpString (data : Str) : Str := trimEndMatches '<' (field data 15 13)

/-- If the check digit is within the thirteen characters, what is left of them is the rest of the
number, the check digit, and whatever else is not a filler. -/
lemma tmpString_of_room (h : LongZone td1 number rest data) (hroom : number.length ≤ 21) :
    tmpString data = number.drop 9 ++
      checkChar number :: trimEndMatches '<' (rest.take (21 - number.length)) := by
  have hlong := h.long
  have hremainder : field data 15 15 = number.drop 9 ++ checkChar number :: rest := h.remainder
  have hdrop : (number.drop 9).length = number.length - 9 := List.length_drop
  have hlen : 13 - (number.drop 9).length = (21 - number.length) + 1 := by omega
  rw [tmpString, ← take_field data 15 (show 13 ≤ 15 by omega), hremainder, List.take_append, hlen,
    List.take_succ_cons, List.take_of_length_le (by omega),
    trimEndMatches_append_cons _ _ (checkChar_ne_filler number)]

lemma tmpString_ne_nil (h : LongZone td1 number rest data) : tmpString data ≠ [] := by
  -- the field starts with a character of the number
  have hlong := h.long
  obtain ⟨c, more, hdrop⟩ := List.exists_cons_of_ne_nil
    (show number.drop 9 ≠ [] by rw [ne_eq, List.drop_eq_nil_iff]; omega)
  have hremainder : field data 15 15 = number.drop 9 ++ checkChar number :: rest := h.remainder
  rw [tmpString, ← take_field data 15 (show 13 ≤ 15 by omega), hremainder, hdrop, ne_eq,
    trimEndMatches_eq_nil]
  intro hall
  obtain rfl := hall c (by simp)
  exact h.overflow (by rw [hdrop]; simp)

/-- What precedes its last character has as many characters as the rest of the number only if there
is nothing else. -/
lemma gap_of_countChars (h : LongZone td1 number rest data)
    (hcount : countChars (tmpString data).dropLast = (number.drop 9).length) :
    number.length ≤ 21 ∧ ∀ c ∈ rest.take (21 - number.length), c = '<' := by
  have hlong := h.long
  have hdrop : (number.drop 9).length = number.length - 9 := List.length_drop
  by_cases hroom : number.length ≤ 21
  · refine ⟨hroom, ?_⟩
    rw [← trimEndMatches_eq_nil]
    by_contra hmore
    have htmp : tmpString data = (number.drop 9 ++ [checkChar number]) ++
        trimEndMatches '<' (rest.take (21 - number.length)) := by
      rw [tmpString_of_room h hroom, List.append_assoc, List.singleton_append]
    have hnone : '<' ∉ number.drop 9 ++ [checkChar number] := by
      simpa using ⟨h.overflow, (checkChar_ne_filler number).symm⟩
    rw [htmp, List.dropLast_append_of_ne_nil hmore, countChars_append,
      countChars_eq_length hnone, List.length_append, List.length_singleton] at hcount
    omega
  · -- thirteen characters are too few
    have htmp : (tmpString data).length ≤ 13 :=
      (length_trimEndMatches_le _ _).trans (List.length_take_le 13 _)
    have hle := countChars_le (tmpString data).dropLast
    rw [List.length_dropLast] at hle
    omega

end Continuation

/-! ## Cards of three lines -/

section Td1

variable {today : NaiveDate} {number rest data : Str}

/-- The fields of the document number, taken from their place in the layout. -/
lemma defaultFields_longZone (h : LongZone td1 number rest data) {cd : Char}
    (hcd : (tmpString data).getLast? = some cd) :
    Td1.defaultFields (field data 0 30) = .ok ⟨number.take 9 ++ (tmpString data).dropLast, [cd],
      (field data 15 15).drop (tmpString data).length, true⟩ := by
  have hascii : IsAscii (field data 0 30) := isAscii_of_isMrzChar (h.isMrzChar_field 0 30)
  have hlen : (field data 0 30).length = 30 := length_field (by rw [h.length]; decide)
  have hfiller : field data 14 1 = ['<'] := h.noCheckDigit
  have hprincipal : field data 5 9 = number.take 9 := h.principal
  have hrest : (field data 0 30).drop (15 + (tmpString data).length) =
      (field data 15 15).drop (tmpString data).length := by
    rw [drop_field, drop_field, Nat.zero_add, Nat.sub_add_eq]
  rw [Td1.defaultFields_eq hascii hlen]
  simp only [field_field data (show 14 + 1 ≤ 30 by omega), Nat.zero_add, hfiller, if_true,
    field_field data (show 15 + 13 ≤ 30 by omega), field_field data (show 5 + 9 ≤ 30 by omega)]
  unfold tmpString at hcd ⊢
  rw [hcd, hprincipal, ← tmpString, ← hrest]

/-- A number cut out by the pattern of a country has too few characters: it cannot reach beyond the
filler at the place of the check digit. -/
lemma countChars_lt_of_pattern (h : LongZone td1 number rest data) {k : Nat} (hk : 5 + k < 30)
    (hchars : ∀ c ∈ field (field data 0 30) 5 k, c.isUpper = true ∨ c.isDigit = true) :
    countChars (field (field data 0 30) 5 k) < countChars number := by
  have hlong := h.long
  have hfield : field (field data 0 30) 5 k = field data 5 k := by
    rw [field_field _ (by omega), Nat.zero_add]
  rw [hfield] at hchars ⊢
  have hnine : k ≤ 9 := by
    by_contra hmore
    have hmem : '<' ∈ field data 5 k := by
      have hsplit : field data 5 k = field data 5 9 ++ field data 14 (k - 9) := by
        rw [field_append_field data 5 9, Nat.add_sub_cancel' (by omega)]
      have hhead : field data 14 (k - 9) = field data 14 1 ++ field data 15 (k - 9 - 1) := by
        rw [field_append_field data 14 1, Nat.add_sub_cancel' (by omega)]
      rw [hsplit, hhead, show field data 14 1 = ['<'] from h.noCheckDigit]
      simp
    rcases hchars '<' hmem with hfiller | hfiller
    · exact absurd hfiller (by decide)
    · exact absurd hfiller (by decide)
  have hprincipal : field data 5 9 = number.take 9 := h.principal
  have hoverflow : countChars (number.drop 9) = number.length - 9 := by
    rw [countChars_eq_length h.overflow, List.length_drop]
  have hsplit : number.take 9 = field data 5 k ++ field data (5 + k) (9 - k) := by
    rw [← hprincipal, field_append_field, Nat.add_sub_cancel' hnine]
  calc countChars (field data 5 k)
      ≤ countChars (number.take 9) := by
        rw [hsplit, countChars_append]
        omega
    _ < countChars (number.take 9) + countChars (number.drop 9) := by omega
    _ = countChars number := by rw [← countChars_append, List.take_append_drop]

lemma parse_td1_lines (h : td1.Checked data) :
    parse today (some ((td1.lines data).map some)) =
      Td1.parseLines today (field data 0 30) (field data 30 30) (field data 60 30) := by
  have hlen : ∀ i ≤ 60, (field data i 30).length = 30 := fun i hi =>
    h.length_field (show i + 30 ≤ 90 by omega)
  exact parse_td1 today (h.isMrzChar_field 0 30) (h.isMrzChar_field 30 30) (h.isMrzChar_field 60 30)
    (hlen 0 (by omega)) (hlen 30 (by omega)) (hlen 60 (by omega))

/-- The dates of the second line need no repair. -/
lemma fixDate_longZone (h : LongZone td1 number rest data) :
    fixDate (field (field data 30 30) 0 6) = field data 30 6 ∧
      fixDate (field (field data 30 30) 8 6) = field data 38 6 := by
  rw [field_field data (show 0 + 6 ≤ 30 by omega), field_field data (show 8 + 6 ≤ 30 by omega)]
  exact ⟨replaceSimilarLettersWithDigits_eq h.birthChars,
    replaceSimilarLettersWithDigits_eq h.expiryChars⟩

/-- If a long number is returned, it was in the reach of the parser. -/
lemma longNumberRead_of_returns (h : LongZone td1 number rest data)
    (hreturns : ReturnsLong today td1 number rest data) :
    LongNumberRead td1 today number rest data := by
  obtain ⟨r, hr, hnumber, -⟩ := hreturns
  have hlen : ∀ i ≤ 60, (field data i 30).length = 30 := fun i hi =>
    h.length_field (show i + 30 ≤ 90 by omega)
  have hascii : ∀ i, IsAscii (field data i 30) := fun i =>
    isAscii_of_isMrzChar (h.isMrzChar_field i 30)
  rw [parse_td1_lines h.toChecked] at hr
  obtain ⟨d, hd, -, hbirth, hexpiry, hdocument, -⟩ := Td1.parseLines_eq_ok (hascii 0) (hascii 30)
    (hascii 60) (hlen 0 (by omega)) (hlen 30 (by omega)) (hlen 60 (by omega)) hr
  rw [(fixDate_longZone h).1] at hbirth
  rw [(fixDate_longZone h).2] at hexpiry
  rw [hdocument] at hnumber
  have hfirst := head_ne_filler hnumber
  cases hcountry : getCountryPattern (field data 0 30) with
  | some pattern =>
    -- the number of a pattern is too short
    rw [Td1.numberFields, hcountry] at hd
    rcases Td1.countryFields_cases (List.mem_of_find?_eq_some hcountry) (hascii 0)
      (hlen 0 (by omega)) with herr | ⟨k, hk, hchars, hok⟩
    · simp [herr] at hd
    · have hd' : Td1.fieldsOfLength (field data 0 30) k = d := by simpa [hok] using hd
      have hcount := countChars_of_parse (s := field (field data 0 30) 5 k)
        (fun c hc => h.isMrzChar_field 0 30 c (mem_of_mem_field hc)) h.isMrzChar_number
        (by rw [← hnumber, ← hd']; rfl)
      exact absurd hcount (countChars_lt_of_pattern h hk hchars).ne
  | none =>
    rw [Td1.numberFields, hcountry] at hd
    cases hlast : (tmpString data).getLast? with
    | none =>
      exact absurd (List.getLast?_eq_none_iff.mp hlast) (tmpString_ne_nil h)
    | some cd =>
      have hd' := (defaultFields_longZone h hlast).symm.trans hd
      obtain rfl := (Outcome.ok.inj hd').symm
      have hchars : ∀ c ∈ number.take 9 ++ (tmpString data).dropLast, IsMrzChar c := by
        intro c hc
        rcases List.mem_append.mp hc with hc | hc
        · exact h.isMrzChar_number c (List.mem_of_mem_take hc)
        · exact h.isMrzChar_field 15 13 c ((List.rdropWhile_prefix (p := (· == '<')) _).subset
            (List.dropLast_subset _ hc))
      have hcount := countChars_of_parse hchars h.isMrzChar_number hnumber
      have hdrop : countChars (number.drop 9) = (number.drop 9).length :=
        countChars_eq_length h.overflow
      have hsplit : countChars number = countChars (number.take 9) + countChars (number.drop 9) := by
        rw [← countChars_append, List.take_append_drop]
      rw [countChars_append] at hcount
      obtain ⟨hroom, hgap⟩ := gap_of_countChars h (by omega)
      exact ⟨rfl, hcountry, hfirst, hroom, hgap, hbirth, hexpiry⟩

/-- The fields of the number, when it is in the reach of the parser. -/
lemma numberFields_of_read (h : LongZone td1 number rest data)
    (hread : LongNumberRead td1 today number rest data) :
    Td1.numberFields (field data 0 30) = .ok ⟨number, [checkChar number], rest, true⟩ := by
  have htmp : tmpString data = number.drop 9 ++ [checkChar number] := by
    rw [tmpString_of_room h hread.room, trimEndMatches_eq_nil.mpr hread.gap]
  have hremainder : field data 15 15 = number.drop 9 ++ checkChar number :: rest := h.remainder
  rw [Td1.numberFields, hread.country]
  show Td1.defaultFields _ = _
  rw [defaultFields_longZone h (by rw [htmp, List.getLast?_concat]), htmp, List.dropLast_concat,
    List.take_append_drop, hremainder,
    show number.drop 9 ++ checkChar number :: rest = (number.drop 9 ++ [checkChar number]) ++ rest
      by simp, List.drop_left]

/-- The check string of the parser is the text the composite is computed over. -/
lemma compositeText_eq (h : LongZone td1 number rest data) :
    (number.take 9 ++ '<' :: number.drop 9) ++ [checkChar number] ++ rest ++ field data 30 6 ++
      field data 36 1 ++ field data 38 6 ++ field data 44 1 ++ field data 48 11 =
      td1.compositeText data := by
  have hremainder : field data 15 15 = number.drop 9 ++ checkChar number :: rest := h.remainder
  have hprincipal : field data 5 9 = number.take 9 := h.principal
  have hfiller : field data 14 1 = ['<'] := h.noCheckDigit
  have hupper : field data 5 25 =
      number.take 9 ++ '<' :: (number.drop 9 ++ checkChar number :: rest) := by
    rw [← field_append_field data 5 9 16, ← field_append_field data 14 1 15, hprincipal, hfiller,
      hremainder]
    rfl
  have hbirth : field data 30 7 = field data 30 6 ++ field data 36 1 :=
    (field_append_field data 30 6 1).symm
  have hexpiry : field data 38 7 = field data 38 6 ++ field data 44 1 :=
    (field_append_field data 38 6 1).symm
  simp only [Layout.compositeText, td1, List.map_cons, List.map_nil, List.flatten_cons,
    List.flatten_nil, List.append_nil, hupper, hbirth, hexpiry, List.append_assoc, List.cons_append,
    List.nil_append]

/-- A long number in the reach of the parser is returned. -/
lemma returns_of_longNumberRead (h : LongZone td1 number rest data)
    (hread : LongNumberRead td1 today number rest data) :
    ReturnsLong today td1 number rest data := by
  have hlong := h.long
  have hlen : ∀ i ≤ 60, (field data i 30).length = 30 := fun i hi =>
    h.length_field (show i + 30 ≤ 90 by omega)
  have hascii : ∀ i, IsAscii (field data i 30) := fun i =>
    isAscii_of_isMrzChar (h.isMrzChar_field i 30)
  have hnumber : IsAscii number := isAscii_of_isMrzChar h.isMrzChar_number
  obtain ⟨birthDate, hbirth⟩ : ∃ d, parseBirthDate today (field data 30 6) = .ok d :=
    Outcome.isOk_iff.mp hread.birthDate
  obtain ⟨expiryDate, hexpiry⟩ : ∃ d, parseExpiryDate (field data 38 6) = .ok d :=
    Outcome.isOk_iff.mp hread.expiryDate
  have hbirthCd : field data 36 1 = [checkChar (field data 30 6)] := h.birthDate
  have hexpiryCd : field data 44 1 = [checkChar (field data 38 6)] := h.expiryDate
  have hcompositeCd : field data 59 1 = [checkChar (td1.compositeText data)] := h.composite
  have hcheckString : Td1.numberForCheckString number true =
      .ok (number.take 9 ++ '<' :: number.drop 9) := by
    rw [Td1.numberForCheckString, if_pos rfl, Text.slice_eq hnumber (by omega) (by omega),
      Text.sliceFrom_eq hnumber (by omega)]
    rfl
  have hcomposite := compositeText_eq h
  rw [hbirthCd, hexpiryCd] at hcomposite
  have hparse : ∃ r, parse today (some ((td1.lines data).map some)) = .ok r ∧
      r.documentNumber = parseDocumentNumber number ∧
      r.personalNumber = parseOptionalData rest := by
    rw [parse_td1_lines h.toChecked, Td1.parseLines_eq today (hascii 0) (hascii 30) (hascii 60)
      (hlen 0 (by omega)) (hlen 30 (by omega)) (hlen 60 (by omega)), numberFields_of_read h hread]
    simp only [Outcome.ok_bind, (fixDate_longZone h).1, (fixDate_longZone h).2, hcheckString,
      Td1.validate_checkChar, field_field data (show 6 + 1 ≤ 30 by omega),
      field_field data (show 14 + 1 ≤ 30 by omega), field_field data (show 29 + 1 ≤ 30 by omega),
      field_field data (show 18 + 11 ≤ 30 by omega), Nat.reduceAdd, hbirthCd, hexpiryCd,
      hcompositeCd, fixCheckDigit_checkChar, hcomposite, hbirth, hexpiry]
    exact ⟨_, rfl, rfl, rfl⟩
  obtain ⟨r, hr, hdocument, hpersonal⟩ := hparse
  refine ⟨r, hr, ?_, ?_⟩
  · rw [hdocument]
    refine parseDocumentNumber_eq h.isMrzChar_number hread.first fun hlast => ?_
    have hmem : '<' ∈ number.drop 9 := by
      apply List.mem_of_getLast?
      rw [List.getLast?_drop, if_neg (by omega), hlast]
    exact h.overflow hmem
  · rw [hpersonal]
    exact parseOptionalData_drop h.rest_filler

end Td1

/-! ## Cards of two lines -/

section Td2

variable {today : NaiveDate} {number rest data : Str}

/-- A French number that runs over the filler at the place of the check digit has a space where the
long number goes on. -/
lemma parseDocumentNumber_ne_of_filler (h : LongZone td2 number rest data) :
    parseDocumentNumber (field (field data 36 36) 0 12) ≠ replaceAngleBracketsWithSpaces number := by
  intro hnumber
  have hlong := h.long
  have hfield : field (field data 36 36) 0 12 = number.take 9 ++ '<' :: field data 46 2 := by
    have hprincipal : field data 36 9 = number.take 9 := h.principal
    have hfiller : field data 45 1 = ['<'] := h.noCheckDigit
    rw [field_field data (show 0 + 12 ≤ 36 by omega), ← field_append_field data 36 9 3,
      ← field_append_field data 45 1 2, hprincipal, hfiller]
    rfl
  obtain ⟨c, more, hcons⟩ := List.exists_cons_of_ne_nil
    (show number ≠ [] from fun hnil => by rw [hnil] at hlong; simp at hlong)
  have hc : IsMrzChar c := h.isMrzChar_number c (by rw [hcons]; simp)
  have hne : c ≠ '<' := fun heq => head_ne_filler hnumber (by rw [hcons, heq]; rfl)
  have hstart : replaceAngleBracketsWithSpaces number <+:
      replaceAngleBracketsWithSpaces (field (field data 36 36) 0 12) := by
    rw [← hnumber]
    refine trim_prefix (c := c) ?_ hc.isWhitespace
    rw [hfield, hcons, replaceAngleBracketsWithSpaces, replaceChar, List.head?_map]
    simp [hne]
  have hten : number[9]? = some number[9] := List.getElem?_eq_getElem hlong
  have hmem : number[9] ∈ number.drop 9 := by
    rw [List.drop_eq_getElem_cons hlong]
    exact List.mem_cons_self
  have htenth : (replaceAngleBracketsWithSpaces number)[9]? = some number[9] := by
    have hnotFiller : number[9] ≠ '<' := fun heq => h.overflow (heq ▸ hmem)
    rw [replaceAngleBracketsWithSpaces, replaceChar, List.getElem?_map, hten, Option.map_some,
      if_neg hnotFiller]
  have hspace : (replaceAngleBracketsWithSpaces (field (field data 36 36) 0 12))[9]? =
      some ' ' := by
    rw [hfield, replaceAngleBracketsWithSpaces, replaceChar, List.getElem?_map,
      List.getElem?_append_right (by simp), List.length_take, Nat.min_eq_left (by omega)]
    rfl
  have heq : number[9] = ' ' := by
    obtain ⟨t, ht⟩ := hstart
    rw [← ht, List.getElem?_append_left (by simpa [replaceAngleBracketsWithSpaces, replaceChar]),
      htenth] at hspace
    exact Option.some.inj hspace
  have hchar := h.isMrzChar_number _ (List.mem_of_mem_drop hmem)
  rw [heq] at hchar
  exact absurd hchar (by decide)

/-- A card of two lines never returns a long number. -/
lemma not_returns_td2 (h : LongZone td2 number rest data) :
    ¬ ReturnsLong today td2 number rest data := by
  rintro ⟨r, hr, hnumber, -⟩
  have hlen : ∀ i ≤ 36, (field data i 36).length = 36 := fun i hi =>
    h.length_field (show i + 36 ≤ 72 by omega)
  have hascii : ∀ i, IsAscii (field data i 36) := fun i =>
    isAscii_of_isMrzChar (h.isMrzChar_field i 36)
  have hparse := parse_td2 today (h.isMrzChar_field 0 36) (h.isMrzChar_field 36 36)
    (hlen 0 (by omega)) (hlen 36 (by omega))
  rw [show parse today (some ((td2.lines data).map some)) = _ from hparse] at hr
  split at hr
  · -- the layout of the French card
    rw [Td2.parseFrenchId_eq today (hascii 0) (hascii 36) (hlen 0 (by omega)) (hlen 36 (by omega))]
      at hr
    obtain ⟨⟨⟩, -, hr⟩ := Outcome.bind_eq_ok.mp hr
    obtain ⟨⟨⟩, -, hr⟩ := Outcome.bind_eq_ok.mp hr
    obtain ⟨⟨⟩, -, hr⟩ := Outcome.bind_eq_ok.mp hr
    obtain ⟨dates, -, hr⟩ := Outcome.bind_eq_ok.mp hr
    cases hr
    exact parseDocumentNumber_ne_of_filler h hnumber
  · -- a filler is no check digit
    have hfiller : field data 45 1 = ['<'] := h.noCheckDigit
    rw [Td2.parseLines_eq today (hascii 0) (hascii 36) (hlen 0 (by omega)) (hlen 36 (by omega)),
      field_field data (show 9 + 1 ≤ 36 by omega), hfiller] at hr
    obtain ⟨⟨⟩, hdigit, -⟩ := Outcome.bind_eq_ok.mp hr
    have hnone : (fixCheckDigit ['<']).head? >>= toDigit = none := by decide
    rw [validateDigit, hnone, if_pos (by simp)] at hdigit
    exact absurd hdigit (by simp)

end Td2

/-! ## Both formats -/

/-- **Long document numbers, exactly when they are returned.**  For every zone of three or of two
lines that carries a document number of more than nine characters, with every check digit right, the
parser returns the whole number and the optional data behind it if and only if the zone has three
lines, its country has no pattern of its own, the number does not start with a filler, its check
digit comes within the first thirteen characters of the optional data with only fillers behind it
in them, and both dates can be read. -/
theorem longNumber (today : NaiveDate) (L : Layout) (hL : L = td1 ∨ L = td2)
    (number rest data : Str) (h : LongZone L number rest data) :
    ReturnsLong today L number rest data ↔ LongNumberRead L today number rest data := by
  rcases hL with rfl | rfl
  · exact ⟨longNumberRead_of_returns h, returns_of_longNumberRead h⟩
  · constructor
    · exact fun hreturns => absurd hreturns (not_returns_td2 h)
    · exact fun hread => absurd hread.format (by decide)

/-- A zone of three lines whose document number `D23145890734` runs over by three characters, with
no other optional data. -/
def stevenson : Str :=
  "I<UTOD23145890<7349<<<<<<<<<<<3407127M9507122UTO<<<<<<<<<<<2STEVENSON<<PETER<JOHN<<<<<<<<<".toList

lemma stevenson_longZone : LongZone td1 "D23145890734".toList "<<<<<<<<<<<".toList stevenson :=
  ⟨by decide, by decide, by decide, by decide⟩

lemma june_mem : 1 ≤ 6 ∧ 6 ≤ 12 := by decide

lemma first_mem : 1 ≤ 1 ∧ 1 ≤ Dmrtd.daysInMonth 2026 6 := by decide

/-- The first of June 2026. -/
def juneFirst : NaiveDate := ⟨2026, 6, 1, june_mem, first_mem⟩

theorem longNumber_stevenson :
    ReturnsLong juneFirst td1 "D23145890734".toList "<<<<<<<<<<<".toList stevenson :=
  (longNumber juneFirst td1 (Or.inl rfl) _ _ _ stevenson_longZone).mpr
    ⟨rfl, by decide +kernel, by decide +kernel, by decide +kernel, by decide +kernel,
      by decide +kernel, by decide +kernel⟩

/-- The same card with `AB1` in its optional data. -/
def stevensonWithData : Str :=
  "I<UTOD23145890<7349<AB1<<<<<<<3407127M9507122UTO<<<<<<<<<<<6STEVENSON<<PETER<JOHN<<<<<<<<<".toList

/-- The same number on a card of two lines. -/
def stevensonTwoLines : Str :=
  "I<UTOSTEVENSON<<PETER<JOHN<<<<<<<<<<D23145890<UTO3407127M95071227349<<<8".toList

/-- Two zones that are in order, dates included, and are refused: optional data behind the number on
three lines, and the number on two lines. -/
theorem longNumber_refused :
    (LongZone td1 "D23145890734".toList "<AB1<<<<<<<".toList stevensonWithData ∧
      ¬ ReturnsLong juneFirst td1 "D23145890734".toList "<AB1<<<<<<<".toList
        stevensonWithData) ∧
    (LongZone td2 "D23145890734".toList "<<<".toList stevensonTwoLines ∧
      ¬ ReturnsLong juneFirst td2 "D23145890734".toList "<<<".toList stevensonTwoLines) := by
  refine ⟨⟨⟨by decide +kernel, by decide +kernel, by decide +kernel, by decide +kernel⟩, ?_⟩,
    ⟨⟨by decide +kernel, by decide +kernel, by decide +kernel, by decide +kernel⟩, ?_⟩⟩
  · rintro ⟨r, hr, -⟩
    have herr : (parse juneFirst (some ((td1.lines stevensonWithData).map some))).isOk = false := by
      decide +kernel
    rw [hr, Outcome.isOk_ok] at herr
    exact Bool.noConfusion herr
  · rintro ⟨r, hr, -⟩
    have herr : (parse juneFirst (some ((td2.lines stevensonTwoLines).map some))).isOk = false := by
      decide +kernel
    rw [hr, Outcome.isOk_ok] at herr
    exact Bool.noConfusion herr

end MrzParser
