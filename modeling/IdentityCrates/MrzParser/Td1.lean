import IdentityCrates.MrzParser.CountryPatterns

/-!
# The TD1 parser

`td1_format_mrz_parser.rs`: three lines of 30 characters.  The document number is cut out of the
first line before anything is repaired (`numberFields`): by the pattern of the country if the line
starts with one that has a pattern, and otherwise at its place in the layout, with the overflow of a
long number from the optional data.
-/

namespace MrzParser

open Rust Text

open Dmrtd (NaiveDate)

namespace Td1

/-- `LINES_LENGTH`. -/
def linesLength : Nat := 30

/-- `LINES_COUNT`. -/
def linesCount : Nat := 3

/-- `is_valid_input`. -/
def isValidInput (input : List Str) : Bool :=
  input.length == linesCount && input.all fun s => byteLen s == linesLength

/-! ## The fields of the document number -/

/-- `document_number_raw`, `document_number_check_digit_raw`, `optional_data_raw` and
`is_long_document_number`. -/
structure NumberFields where
  number : Str
  checkDigit : Str
  optionalData : Str
  isLong : Bool
  deriving DecidableEq, Repr

/-- `validates`: the text `cd` is the check digit of `doc`. -/
def validates (doc cd : Str) : Bool := parseUnsigned 255 cd == some (getCheckDigit doc)

/-- The fields of a number by the pattern of its country.  A greedy pattern may have swallowed the
check digit; the split whose check digit is right is taken, the full match first. -/
def countryFields (pattern : MRZCountryPattern) (firstLine : Str) :
    Outcome MRZError NumberFields := do
  let startIdx := pattern.documentNumberStartIndex
  let substring ← Text.sliceFrom firstLine startIdx
  match pattern.captures substring with
  | none => .err .invalidDocumentNumber
  | some matched => do
    let matchEnd := startIdx + byteLen matched
    let fullCd ←
      if matchEnd < linesLength then some <$> Text.slice firstLine matchEnd (matchEnd + 1)
      else pure none
    match fullCd.filter (validates matched) with
    | some cd => do
      let optionalData ← Text.slice firstLine (matchEnd + 1) linesLength
      return ⟨matched, cd, optionalData, decide (byteLen matched > 9)⟩
    | none => do
      let shorter ←
        if byteLen matched ≥ 2 then do
          let doc ← Text.slice matched 0 (byteLen matched - 1)
          let cd ← Text.slice matched (byteLen matched - 1) (byteLen matched)
          pure (if validates doc cd then some (doc, cd) else none)
        else pure none
      match shorter with
      | some (doc, cd) => do
        let optionalData ← Text.slice firstLine matchEnd linesLength
        return ⟨doc, cd, optionalData, decide (byteLen doc > 9)⟩
      | none =>
        match fullCd with
        | some cd => do
          -- neither split validates: the greedy one is kept, to be refused further down
          let optionalData ← Text.slice firstLine (matchEnd + 1) linesLength
          return ⟨matched, cd, optionalData, decide (byteLen matched > 9)⟩
        | none => .err .invalidDocumentNumber

/-- The fields of a number at its place in the layout. -/
def defaultFields (firstLine : Str) : Outcome MRZError NumberFields := do
  let separator ← Text.slice firstLine 14 15
  if separator = ['<'] then do
    let tmpString ← trimEndMatches '<' <$> Text.slice firstLine 15 28
    if tmpString = [] then .err .invalidDocumentNumber
    else do
      let checkDigit ← Text.slice tmpString (byteLen tmpString - 1) (byteLen tmpString)
      let part1 ← Text.slice firstLine 5 14
      let part2 ← Text.slice tmpString 0 (byteLen tmpString - 1)
      let optionalData ← Text.slice firstLine (15 + byteLen tmpString) 30
      return ⟨part1 ++ part2, checkDigit, optionalData, true⟩
  else do
    let number ← Text.slice firstLine 5 14
    let checkDigit ← Text.slice firstLine 14 15
    let optionalData ← Text.slice firstLine 15 30
    return ⟨number, checkDigit, optionalData, false⟩

/-- The fields of the document number. -/
def numberFields (firstLine : Str) : Outcome MRZError NumberFields :=
  match getCountryPattern firstLine with
  | some pattern => countryFields pattern firstLine
  | none => defaultFields firstLine

/-! ## Parsing -/

/-- A check digit, read as a number of eight bits, against the text it is for. -/
def validate (cd value : Str) (e : MRZError) : Outcome MRZError Unit :=
  if parseUnsigned 255 cd ≠ some (getCheckDigit value) then .err e else .ok ()

/-- `document_number_fixed_for_check_string`: a long number has a filler after nine characters. -/
def numberForCheckString (number : Str) (isLong : Bool) : Outcome MRZError Str :=
  if isLong then do
    let first9 ← Text.slice number 0 9
    let rest ← Text.sliceFrom number 9
    return first9 ++ '<' :: rest
  else .ok number

/-- `parse`, the lines at hand. -/
def parseLines (today : NaiveDate) (firstLine secondLine thirdLine : Str) :
    Outcome MRZError MRZResult := do
  let documentTypeRaw ← Text.slice firstLine 0 2
  let countryCodeRaw ← Text.slice firstLine 2 5
  let document ← numberFields firstLine
  let birthDateRaw ← Text.slice secondLine 0 6
  let birthDateCheckDigitRaw ← Text.slice secondLine 6 7
  let sexRaw ← Text.slice secondLine 7 8
  let expiryDateRaw ← Text.slice secondLine 8 14
  let expiryDateCheckDigitRaw ← Text.slice secondLine 14 15
  let nationalityRaw ← Text.slice secondLine 15 18
  let optionalData2Raw ← Text.slice secondLine 18 29
  let finalCheckDigitRaw ← Text.slice secondLine 29 30
  let documentTypeFixed := fixDocumentType documentTypeRaw
  let countryCodeFixed := fixCountryCode countryCodeRaw
  let documentNumberCheckDigitFixed := fixCheckDigit document.checkDigit
  let birthDateFixed := fixDate birthDateRaw
  let birthDateCheckDigitFixed := fixCheckDigit birthDateCheckDigitRaw
  let sexFixed := fixSex sexRaw
  let expiryDateFixed := fixDate expiryDateRaw
  let expiryDateCheckDigitFixed := fixCheckDigit expiryDateCheckDigitRaw
  let nationalityFixed := fixNationality nationalityRaw
  let finalCheckDigitFixed := fixCheckDigit finalCheckDigitRaw
  validate documentNumberCheckDigitFixed document.number .invalidDocumentNumber
  validate birthDateCheckDigitFixed birthDateFixed .invalidBirthDate
  validate expiryDateCheckDigitFixed expiryDateFixed .invalidExpiryDate
  let documentNumberForCheckString ← numberForCheckString document.number document.isLong
  let finalCheckString := documentNumberForCheckString ++ documentNumberCheckDigitFixed ++
    document.optionalData ++ birthDateFixed ++ birthDateCheckDigitFixed ++ expiryDateFixed ++
    expiryDateCheckDigitFixed ++ optionalData2Raw
  validate finalCheckDigitFixed finalCheckString .invalidMRZValue
  let birthDate ← parseBirthDate today birthDateFixed
  let expiryDate ← parseExpiryDate expiryDateFixed
  let namesRaw ← Text.slice thirdLine 0 30
  let names := parseNames namesRaw
  return {
    documentType := parseDocumentType documentTypeFixed
    countryCode := parseCountryCode countryCodeFixed
    surnames := names.1
    givenNames := names.2
    documentNumber := parseDocumentNumber document.number
    nationalityCountryCode := parseNationality nationalityFixed
    birthDate
    sex := parseSex sexFixed
    expiryDate
    personalNumber := parseOptionalData document.optionalData
    personalNumber2 := some (parseOptionalData optionalData2Raw) }

/-! ### What the parser computes -/

/-- On ASCII text of the right length the fields of a number at its place in the layout. -/
lemma defaultFields_eq {firstLine : Str} (hfirst : IsAscii firstLine)
    (lfirst : firstLine.length = 30) :
    defaultFields firstLine =
      if field firstLine 14 1 = ['<'] then
        let tmpString := trimEndMatches '<' (field firstLine 15 13)
        match tmpString.getLast? with
        | none => .err .invalidDocumentNumber
        | some cd => .ok ⟨field firstLine 5 9 ++ tmpString.dropLast, [cd],
            firstLine.drop (15 + tmpString.length), true⟩
      else .ok ⟨field firstLine 5 9, field firstLine 14 1, field firstLine 15 15, false⟩ := by
  unfold defaultFields
  simp only [Text.slice_eq hfirst, lfirst, Nat.reduceLeDiff, Nat.reduceSub, Outcome.ok_bind,
    Outcome.pure_eq, Outcome.map_ok]
  split
  · have htmp : IsAscii (trimEndMatches '<' (field firstLine 15 13)) := fun c hc =>
      hfirst.field 15 13 c ((List.rdropWhile_prefix (p := (· == '<')) _).subset hc)
    have hlen : (trimEndMatches '<' (field firstLine 15 13)).length ≤ 13 := by
      refine (length_trimEndMatches_le _ _).trans ?_
      rw [length_field (by omega)]
    generalize trimEndMatches '<' (field firstLine 15 13) = tmpString at htmp hlen ⊢
    rcases List.eq_nil_or_concat' tmpString with rfl | ⟨init, cd, rfl⟩
    · rfl
    · have hne : init ++ [cd] ≠ [] := by simp
      have hlast : field (init ++ [cd]) init.length 1 = [cd] := by
        simp [field]
      have hinit : field (init ++ [cd]) 0 init.length = init := by
        simp [field]
      rw [List.length_append, List.length_singleton] at hlen
      have hrest : firstLine.drop (15 + (init.length + 1)) =
          field firstLine (15 + (init.length + 1)) (30 - (15 + (init.length + 1))) := by
        rw [field, List.take_of_length_le]
        rw [List.length_drop]
        omega
      have hle : 15 + (init.length + 1) ≤ 30 := by omega
      simp only [if_neg hne, htmp.byteLen_eq, List.length_append, List.length_singleton,
        Nat.add_sub_cancel, Nat.add_sub_cancel_left, Text.slice_eq htmp, Text.slice_eq hfirst, lfirst,
        Nat.le_add_right, Nat.zero_le, le_refl, Nat.sub_zero, hlast, hinit, hle, hrest,
        Outcome.ok_bind, List.getLast?_concat, List.dropLast_concat]
  · rfl

/-- A long number goes on behind the filler, up to its check digit, which is the last character that
is no filler. -/
lemma defaultFields_long {firstLine : Str} (hfirst : IsAscii firstLine)
    (lfirst : firstLine.length = 30) (hlong : field firstLine 14 1 = ['<']) {n : Nat}
    (hn : (trimEndMatches '<' (field firstLine 15 13)).length = n + 1) :
    defaultFields firstLine = .ok ⟨field firstLine 5 9 ++ field firstLine 15 n,
      field firstLine (15 + n) 1, firstLine.drop (15 + (n + 1)), true⟩ := by
  have hlen : n + 1 ≤ 13 := by
    rw [← hn]
    exact (length_trimEndMatches_le _ _).trans_eq (length_field (by omega))
  have htmp : trimEndMatches '<' (field firstLine 15 13) =
      field firstLine 15 n ++ field firstLine (15 + n) 1 := by
    have hstart := (List.rdropWhile_prefix (p := (· == '<')) (field firstLine 15 13))
    rw [List.prefix_iff_eq_take] at hstart
    rw [field_append_field, ← take_field firstLine 15 hlen, ← hn]
    exact hstart
  obtain ⟨cd, hcd⟩ : ∃ cd, field firstLine (15 + n) 1 = [cd] :=
    List.length_eq_one_iff.mp (length_field (by omega))
  rw [defaultFields_eq hfirst lfirst, if_pos hlong]
  dsimp only
  rw [hn, htmp, hcd, List.getLast?_concat, List.dropLast_concat]

/-- The fields of a number of `k` characters that follows the prefix of the country: the character
behind it is its check digit and the rest of the line are optional data. -/
def fieldsOfLength (firstLine : Str) (k : Nat) : NumberFields :=
  ⟨field firstLine 5 k, field firstLine (5 + k) 1, firstLine.drop (5 + k + 1), decide (k > 9)⟩

/-- The split of a number of which the pattern of the country matches `n` characters. -/
def splitNumber (firstLine : Str) (n : Nat) : Outcome MRZError NumberFields :=
  if 5 + n < 30 ∧ validates (field firstLine 5 n) (field firstLine (5 + n) 1) then
    .ok (fieldsOfLength firstLine n)
  else if 2 ≤ n ∧ validates (field firstLine 5 (n - 1)) (field firstLine (5 + (n - 1)) 1) then
    .ok (fieldsOfLength firstLine (n - 1))
  else if 5 + n < 30 then .ok (fieldsOfLength firstLine n)
  else .err .invalidDocumentNumber

/-- A number of `k` characters with the rest of the line behind its check digit. -/
lemma fields_of_slice {firstLine number : Str} (hfirst : IsAscii firstLine)
    (lfirst : firstLine.length = 30) {k : Nat} (hk : 5 + k < 30)
    (hnumber : number = field firstLine 5 k) :
    ((Text.slice firstLine (5 + k + 1) 30 : Outcome MRZError Str) >>= fun optionalData =>
      return ⟨number, field firstLine (5 + k) 1, optionalData, decide (byteLen number > 9)⟩) =
      (.ok (fieldsOfLength firstLine k) : Outcome MRZError NumberFields) := by
  have hbytes : byteLen (field firstLine 5 k) = k := by
    rw [(hfirst.field 5 k).byteLen_eq, length_field (by omega)]
  rw [Text.slice_eq hfirst (by omega) (by omega), Outcome.ok_bind, field_eq_drop lfirst, hnumber, hbytes]
  rfl

/-- On ASCII text of the right length the split is by the length of the match. -/
lemma countryFields_eq {pattern : MRZCountryPattern} {firstLine : Str} (hpattern : pattern ∈ patterns)
    (hfirst : IsAscii firstLine) (lfirst : firstLine.length = 30) :
    countryFields pattern firstLine =
      match pattern.captures (firstLine.drop 5) with
      | none => .err .invalidDocumentNumber
      | some matched => splitNumber firstLine matched.length := by
  have hstart : pattern.documentNumberStartIndex = 5 := (patterns_spec pattern hpattern).1
  unfold countryFields splitNumber
  rw [hstart]
  simp only [Text.sliceFrom_eq hfirst, lfirst, Nat.reduceLeDiff, Outcome.ok_bind, linesLength]
  cases hcaptures : pattern.captures (firstLine.drop 5) with
  | none => rfl
  | some matched =>
    obtain ⟨hmatched, hlen, hchars⟩ := captures_eq_some hcaptures
    rw [List.length_drop, lfirst] at hlen
    have hfield : matched = field firstLine 5 matched.length := hmatched
    generalize hn : matched.length = n at hlen hfield
    have hascii : IsAscii matched := by
      rw [hfield]
      exact hfirst.field 5 n
    have hbytes : byteLen matched = n := by rw [hascii.byteLen_eq, hn]
    -- the full match, with the next character as its check digit
    have hfull (hlt : 5 + n < 30) := fields_of_slice hfirst lfirst hlt hfield
    -- the match without its last character, which is then the check digit
    have hdoc : field matched 0 (n - 1) = field firstLine 5 (n - 1) := by
      rw [hfield, field_field _ (by omega)]
    have hcd (htwo : 2 ≤ n) : field matched (n - 1) (n - (n - 1)) = field firstLine (5 + (n - 1)) 1 := by
      rw [hfield, field_field _ (by omega), Nat.sub_sub_self (by omega)]
    have hshorter (htwo : 2 ≤ n) :=
      fields_of_slice hfirst lfirst (show 5 + (n - 1) < 30 by omega) rfl
    have hbehind (htwo : 2 ≤ n) : 5 + (n - 1) + 1 = 5 + n := by omega
    have hslices (htwo : 2 ≤ n) :
        (Text.slice matched 0 (n - 1) : Outcome MRZError Str) = .ok (field firstLine 5 (n - 1)) ∧
        (Text.slice matched (n - 1) n : Outcome MRZError Str) = .ok (field firstLine (5 + (n - 1)) 1) := by
      rw [Text.slice_eq hascii (by omega) (by omega), Text.slice_eq hascii (by omega) (by omega), Nat.sub_zero,
        hdoc, hcd htwo]
      exact ⟨rfl, rfl⟩
    simp only [hbytes, hn] at hfull hshorter ⊢
    by_cases hlt : 5 + n < 30
    · rw [if_pos hlt, if_pos hlt, Text.slice_eq hfirst (by omega) (by omega), Nat.add_sub_cancel_left,
        Outcome.map_ok, Outcome.ok_bind, Option.filter_some, congrArg validates hfield]
      by_cases hvalid : validates (field firstLine 5 n) (field firstLine (5 + n) 1) = true
      · rw [if_pos hvalid, if_pos (And.intro hlt hvalid)]
        exact hfull hlt
      · rw [if_neg hvalid, if_neg (hvalid ∘ And.right)]
        dsimp only
        by_cases htwo : 2 ≤ n
        · rw [if_pos htwo, (hslices htwo).1, (hslices htwo).2, Outcome.ok_bind, Outcome.ok_bind,
            Outcome.pure_eq, Outcome.ok_bind]
          by_cases hvalid' : validates (field firstLine 5 (n - 1)) (field firstLine (5 + (n - 1)) 1) = true
          · rw [if_pos hvalid', if_pos ⟨htwo, hvalid'⟩]
            rw [← hbehind htwo]
            exact hshorter htwo
          · rw [if_neg hvalid', if_neg (hvalid' ∘ And.right)]
            exact hfull hlt
        · rw [if_neg htwo, if_neg (htwo ∘ And.left)]
          exact hfull hlt
    · rw [if_neg hlt, if_neg hlt, if_neg (hlt ∘ And.left), Outcome.pure_eq, Outcome.ok_bind,
        Option.filter_none]
      dsimp only
      by_cases htwo : 2 ≤ n
      · rw [if_pos htwo, (hslices htwo).1, (hslices htwo).2, Outcome.ok_bind, Outcome.ok_bind,
          Outcome.pure_eq, Outcome.ok_bind]
        by_cases hvalid' : validates (field firstLine 5 (n - 1)) (field firstLine (5 + (n - 1)) 1) = true
        · rw [if_pos hvalid', if_pos ⟨htwo, hvalid'⟩]
          rw [← hbehind htwo]
          exact hshorter htwo
        · rw [if_neg hvalid', if_neg (hvalid' ∘ And.right)]
      · rw [if_neg htwo, if_neg (htwo ∘ And.left)]
        rfl

/-- What the pattern of a country makes of a line: nothing, or a number of letters and digits behind
the prefix of the country. -/
lemma countryFields_cases {pattern : MRZCountryPattern} {firstLine : Str}
    (hpattern : pattern ∈ patterns) (hfirst : IsAscii firstLine) (lfirst : firstLine.length = 30) :
    countryFields pattern firstLine = .err .invalidDocumentNumber ∨
      ∃ k, 5 + k < 30 ∧ (∀ c ∈ field firstLine 5 k, c.isUpper = true ∨ c.isDigit = true) ∧
        countryFields pattern firstLine = .ok (fieldsOfLength firstLine k) := by
  rw [countryFields_eq hpattern hfirst lfirst]
  cases hcaptures : pattern.captures (firstLine.drop 5) with
  | none => exact Or.inl rfl
  | some matched =>
    obtain ⟨hmatched, hlen, hchars⟩ := captures_eq_some hcaptures
    rw [List.length_drop, lfirst] at hlen
    rw [hmatched] at hchars
    have hshorter : ∀ c ∈ field firstLine 5 (matched.length - 1),
        c.isUpper = true ∨ c.isDigit = true := by
      intro c hc
      rw [← take_field firstLine 5 (Nat.sub_le matched.length 1)] at hc
      exact hchars c (List.mem_of_mem_take hc)
    dsimp only [splitNumber]
    split
    · rename_i hfull
      exact Or.inr ⟨_, hfull.1, hchars, rfl⟩
    · split
      · exact Or.inr ⟨_, by omega, hshorter, rfl⟩
      · split
        · rename_i hlt
          exact Or.inr ⟨_, hlt, hchars, rfl⟩
        · exact Or.inl rfl

/-- On lines of ASCII text of the right length the parser is a sequence of checks on fields. -/
lemma parseLines_eq (today : NaiveDate) {firstLine secondLine thirdLine : Str}
    (hfirst : IsAscii firstLine) (hsecond : IsAscii secondLine) (hthird : IsAscii thirdLine)
    (lfirst : firstLine.length = 30) (lsecond : secondLine.length = 30)
    (lthird : thirdLine.length = 30) :
    parseLines today firstLine secondLine thirdLine = do
      let document ← numberFields firstLine
      validate (fixCheckDigit document.checkDigit) document.number .invalidDocumentNumber
      validate (fixCheckDigit (field secondLine 6 1)) (fixDate (field secondLine 0 6))
        .invalidBirthDate
      validate (fixCheckDigit (field secondLine 14 1)) (fixDate (field secondLine 8 6))
        .invalidExpiryDate
      let numberForCheckString ← numberForCheckString document.number document.isLong
      validate (fixCheckDigit (field secondLine 29 1))
        (numberForCheckString ++ fixCheckDigit document.checkDigit ++ document.optionalData ++
          fixDate (field secondLine 0 6) ++ fixCheckDigit (field secondLine 6 1) ++
          fixDate (field secondLine 8 6) ++ fixCheckDigit (field secondLine 14 1) ++
          field secondLine 18 11) .invalidMRZValue
      let birthDate ← parseBirthDate today (fixDate (field secondLine 0 6))
      let expiryDate ← parseExpiryDate (fixDate (field secondLine 8 6))
      return {
        documentType := parseDocumentType (fixDocumentType (field firstLine 0 2))
        countryCode := parseCountryCode (fixCountryCode (field firstLine 2 3))
        surnames := (parseNames thirdLine).1
        givenNames := (parseNames thirdLine).2
        documentNumber := parseDocumentNumber document.number
        nationalityCountryCode := parseNationality (fixNationality (field secondLine 15 3))
        birthDate
        sex := parseSex (fixSex (field secondLine 7 1))
        expiryDate
        personalNumber := parseOptionalData document.optionalData
        personalNumber2 := some (parseOptionalData (field secondLine 18 11)) } := by
  have hnames : field thirdLine 0 30 = thirdLine := by
    rw [field, List.drop_zero, List.take_of_length_le (by omega)]
  unfold parseLines
  simp only [Text.slice_eq hfirst, Text.slice_eq hsecond, Text.slice_eq hthird, lfirst, lsecond, lthird, hnames,
    Nat.reduceLeDiff, Nat.reduceSub, Outcome.ok_bind, Outcome.pure_eq]

lemma validate_eq_ok {cd value : Str} {e : MRZError} :
    validate cd value e = .ok () ↔ parseUnsigned 255 cd = some (getCheckDigit value) := by
  unfold validate
  split <;> simp_all

/-- A text with its own check digit passes. -/
lemma validate_checkChar (value : Str) (e : MRZError) :
    validate [Icao.checkChar value] value e = .ok () := by
  rw [validate_eq_ok, getCheckDigit_eq, Icao.checkChar,
    parseUnsigned_digitChar (Icao.checkDigit_lt value) (by norm_num)]

/-- What a result is made of. -/
lemma parseLines_eq_ok {today : NaiveDate} {firstLine secondLine thirdLine : Str} {r : MRZResult}
    (hfirst : IsAscii firstLine) (hsecond : IsAscii secondLine) (hthird : IsAscii thirdLine)
    (lfirst : firstLine.length = 30) (lsecond : secondLine.length = 30)
    (lthird : thirdLine.length = 30) (h : parseLines today firstLine secondLine thirdLine = .ok r) :
    ∃ document, numberFields firstLine = .ok document ∧
      parseUnsigned 255 (fixCheckDigit document.checkDigit) =
        some (getCheckDigit document.number) ∧
      (parseBirthDate today (fixDate (field secondLine 0 6))).isOk = true ∧
      (parseExpiryDate (fixDate (field secondLine 8 6))).isOk = true ∧
      r.documentNumber = parseDocumentNumber document.number ∧
      r.personalNumber = parseOptionalData document.optionalData ∧
      (r.surnames, r.givenNames) = parseNames thirdLine := by
  rw [parseLines_eq today hfirst hsecond hthird lfirst lsecond lthird] at h
  obtain ⟨document, hdocument, h⟩ := Outcome.bind_eq_ok.mp h
  obtain ⟨⟨⟩, hnumber, h⟩ := Outcome.bind_eq_ok.mp h
  obtain ⟨⟨⟩, -, h⟩ := Outcome.bind_eq_ok.mp h
  obtain ⟨⟨⟩, -, h⟩ := Outcome.bind_eq_ok.mp h
  obtain ⟨checkString, -, h⟩ := Outcome.bind_eq_ok.mp h
  obtain ⟨⟨⟩, -, h⟩ := Outcome.bind_eq_ok.mp h
  obtain ⟨birthDate, hbirth, h⟩ := Outcome.bind_eq_ok.mp h
  obtain ⟨expiryDate, hexpiry, h⟩ := Outcome.bind_eq_ok.mp h
  cases h
  exact ⟨document, hdocument, validate_eq_ok.mp hnumber, Outcome.isOk_iff.mpr ⟨_, hbirth⟩,
    Outcome.isOk_iff.mpr ⟨_, hexpiry⟩, rfl, rfl, rfl⟩

/-- `parse`. -/
def parse (today : NaiveDate) (input : List Str) : Outcome MRZError MRZResult := do
  if isValidInput input then do
    let firstLine ← Outcome.unwrap input[0]?
    let secondLine ← Outcome.unwrap input[1]?
    let thirdLine ← Outcome.unwrap input[2]?
    parseLines today firstLine secondLine thirdLine
  else .err .invalidMRZInput

end Td1

end MrzParser
