import IdentityCrates.Dmrtd.Extension.DateString
import IdentityCrates.Icao.Mrz

/-!
# Fields of a scanned machine readable zone

What the three format parsers of `mrz-parser` share: the errors and the result, the check digit, the
repair of characters that optical recognition confuses, and the reading of a repaired field.  The
lines come from a camera, so that a letter may stand where a digit belongs and the other way round.

Dates go through `NaiveDate::parse_from_str` of the calendar library with the format `%Y%m%d`
(`parseFromStr`), which lets white space stand before each of the three numbers.  The year of today,
which the program asks the clock for, comes with the parameter `today`.
-/

namespace MrzParser

open Rust Text

open Dmrtd (NaiveDate)

/-- `MRZError`, as far as the parsers construct it. -/
inductive MRZError where
  | invalidMRZInput
  | invalidDocumentNumber
  | invalidBirthDate
  | invalidExpiryDate
  | invalidOptionalData
  | invalidMRZValue
  deriving DecidableEq, Repr

/-- `Sex`. -/
inductive Sex where
  | male
  | female
  | unspecified
  deriving DecidableEq, Repr

/-- `MRZResult`. -/
structure MRZResult where
  documentType : Str
  countryCode : Str
  surnames : Str
  givenNames : Str
  documentNumber : Str
  nationalityCountryCode : Str
  birthDate : NaiveDate
  sex : Sex
  expiryDate : NaiveDate
  personalNumber : Str
  personalNumber2 : Option Str
  deriving DecidableEq

/-! ## Check digit -/

/-- `WEIGHTS`. -/
def weights : List Nat := [7, 3, 1]

/-- What a character counts in a check digit. -/
def charValue (c : Char) : Nat :=
  if c.isUpper then c.toNat - 'A'.toNat + 10
  else if c.isDigit then c.toNat - '0'.toNat
  else 0

/-- `get_check_digit`. -/
def getCheckDigit (input : Str) : Nat :=
  (input.zipIdx.map fun (c, i) => charValue c * weights.getD (i % weights.length) 0).sum % 10

/-! ## Look-alike characters -/

/-- `is_valid_mrz_input`. -/
def isValidMrzInput (s : Str) : Bool := s.all fun c => c.isUpper || c.isDigit || c == '<'

/-- The letter that a digit is mistaken for. -/
def digitToLetter : Char → Char
  | '0' => 'O'
  | '1' => 'I'
  | '2' => 'Z'
  | '8' => 'B'
  | other => other

/-- `replace_similar_digits_with_letters`. -/
def replaceSimilarDigitsWithLetters (input : Str) : Str := input.map digitToLetter

/-- The digit that a letter is mistaken for. -/
def letterToDigit : Char → Char
  | 'O' | 'o' | 'Q' | 'q' | 'U' | 'u' | 'D' | 'd' => '0'
  | 'I' | 'i' => '1'
  | 'Z' | 'z' => '2'
  | 'B' | 'b' => '8'
  | other => other

/-- `replace_similar_letters_with_digits`. -/
def replaceSimilarLettersWithDigits (input : Str) : Str := input.map letterToDigit

/-- `replace_angle_brackets_with_spaces`. -/
def replaceAngleBracketsWithSpaces (input : Str) : Str := replaceChar '<' ' ' input

/-! ### `MRZFieldRecognitionDefectsFixer` -/

/-- `fix_document_type`. -/
def fixDocumentType (input : Str) : Str := replaceSimilarDigitsWithLetters input

/-- `fix_check_digit`. -/
def fixCheckDigit (input : Str) : Str := replaceSimilarLettersWithDigits input

/-- `fix_date`. -/
def fixDate (input : Str) : Str := replaceSimilarLettersWithDigits input

/-- `fix_sex`. -/
def fixSex (input : Str) : Str :=
  input.map fun
    | 'P' | 'p' => 'F'
    | other => other

/-- `fix_country_code`. -/
def fixCountryCode (input : Str) : Str := replaceSimilarDigitsWithLetters input

/-- `fix_names`. -/
def fixNames (input : Str) : Str := replaceSimilarDigitsWithLetters input

/-- `fix_nationality`. -/
def fixNationality (input : Str) : Str := replaceSimilarDigitsWithLetters input

/-! ## `MRZFieldParser` -/

/-- `trim`: fillers become spaces, and those at the ends go. -/
def trimField (input : Str) : Str := trim (replaceAngleBracketsWithSpaces input)

/-- `parse_document_number`. -/
def parseDocumentNumber (input : Str) : Str := trimField input

/-- `parse_document_type`. -/
def parseDocumentType (input : Str) : Str := trimField input

/-- `parse_country_code`. -/
def parseCountryCode (input : Str) : Str := trimField input

/-- `parse_nationality`. -/
def parseNationality (input : Str) : Str := trimField input

/-- `parse_optional_data`. -/
def parseOptionalData (input : Str) : Str := trimField input

/-- `str::splitn(2, "<<")`: the text before the first double filler, and the text after it. -/
def splitOnceDouble : Str → Str × Option Str
  | '<' :: '<' :: s => ([], some s)
  | [] => ([], none)
  | c :: s => (c :: (splitOnceDouble s).1, (splitOnceDouble s).2)

/-- `parse_names`: surnames and given names. -/
def parseNames (input : Str) : Str × Str :=
  let parts := splitOnceDouble (trimEndMatches '<' input)
  (trimField parts.1, trimField (parts.2.getD []))

/-- `parse_sex`. -/
def parseSex (input : Str) : Sex :=
  if trim input = ['M'] then .male
  else if trim input = ['F'] then .female
  else .unspecified

/-! ### Dates -/

/-- The number at the start of a text, of at most `max` digits, and the text behind it. -/
def scanNumber (max : Nat) (s : Str) : Option (Nat × Str) :=
  let digits := (s.take max).takeWhile Char.isDigit
  if digits = [] then none else some (ofDigits digits, s.drop digits.length)

/-- `NaiveDate::parse_from_str(_, "%Y%m%d")` on a text that does not start with a sign. -/
def parseFromStr (s : Str) : Option NaiveDate := do
  let (year, s) ← scanNumber 4 (trimStart s)
  let (month, s) ← scanNumber 2 (trimStart s)
  let (day, s) ← scanNumber 2 (trimStart s)
  if s = [] then NaiveDate.fromYmdOpt year month day else none

/-- `_parse_date`. -/
def parseDate (input : Str) (milestoneYear : Int) : Outcome MRZError NaiveDate := do
  let s := trim input
  if byteLen s < 6 then .err .invalidMRZInput
  else do
    let yyStr ← Outcome.ofOption .invalidMRZInput (get? s 0 2)
    let rest ← Outcome.ofOption .invalidMRZInput (get? s 2 (byteLen s))
    let parsedYear ← Outcome.ofOption .invalidMRZInput (parseSigned (2 ^ 31 - 1) yyStr)
    let century : Int := if parsedYear > milestoneYear then 1900 else 2000
    let fullYear := century + parsedYear
    -- the year is between 1891 and 2099, so that its four digits are all of it
    let fullDateStr := padZero 4 fullYear.toNat ++ rest
    Outcome.ofOption .invalidMRZInput (parseFromStr fullDateStr)

/-- `parse_birth_date`. -/
def parseBirthDate (today : NaiveDate) (input : Str) : Outcome MRZError NaiveDate :=
  parseDate (trimField input) (max (today.year - 2000) 0)

/-- `parse_expiry_date`. -/
def parseExpiryDate (input : Str) : Outcome MRZError NaiveDate :=
  parseDate (trimField input) 70

/-! ## Facts about fields -/

/-- The check digit is that of the standard. -/
lemma getCheckDigit_eq (s : Str) : getCheckDigit s = Icao.checkDigit s := by
  have hvalue : ∀ c, charValue c = Icao.charValue c := by
    intro c
    unfold charValue Icao.charValue
    by_cases hd : c.isDigit = true
    · have hu : c.isUpper ≠ true := by
        obtain ⟨d, hd', rfl⟩ := exists_digitChar hd
        interval_cases d <;> decide
      rw [if_neg hu, if_pos hd, if_pos hd]
    · rw [if_neg hd, if_neg hd]
  have hsum : ∀ i, ((s.zipIdx i).map fun (c, i) =>
      charValue c * weights.getD (i % weights.length) 0).sum = Icao.weightedSum i s := by
    induction s with
    | nil => exact fun i => rfl
    | cons c s ih =>
      intro i
      rw [List.zipIdx_cons, List.map_cons, List.sum_cons, ih, Icao.weightedSum, ← hvalue]
      rfl
  rw [getCheckDigit, hsum, Icao.checkDigit]

lemma letterToDigit_of_isDigit {c : Char} (h : c.isDigit = true) : letterToDigit c = c := by
  obtain ⟨d, hd, rfl⟩ := exists_digitChar h
  interval_cases d <;> rfl

/-- A text of digits and fillers needs no repair. -/
lemma replaceSimilarLettersWithDigits_eq {s : Str} (h : ∀ c ∈ s, c.isDigit = true ∨ c = '<') :
    replaceSimilarLettersWithDigits s = s := by
  have hchar : ∀ c ∈ s, letterToDigit c = c := by
    intro c hc
    rcases h c hc with hd | rfl
    · exact letterToDigit_of_isDigit hd
    · rfl
  calc replaceSimilarLettersWithDigits s = s.map id := List.map_congr_left hchar
    _ = s := List.map_id s

lemma fixCheckDigit_checkChar (s : Str) : fixCheckDigit [Icao.checkChar s] = [Icao.checkChar s] := by
  apply replaceSimilarLettersWithDigits_eq
  intro c hc
  obtain rfl := List.mem_singleton.mp hc
  exact Or.inl (Icao.isDigit_checkChar s)

/-- The fillers of a text as spaces. -/
lemma isWhitespace_replaced {c : Char} (h : Icao.IsMrzChar c) :
    isWhitespace (if c = '<' then ' ' else c) = decide (c = '<') := by
  by_cases hc : c = '<'
  · simp only [hc, if_true, decide_true]
    rfl
  · simp only [hc, if_false, decide_false]
    exact h.isWhitespace

/-- Fillers become white space and nothing else does. -/
lemma filter_replaceAngleBracketsWithSpaces {s : Str} (h : ∀ c ∈ s, Icao.IsMrzChar c) :
    (replaceAngleBracketsWithSpaces s).filter (fun c => !isWhitespace c) =
      s.filter (· ≠ '<') := by
  unfold replaceAngleBracketsWithSpaces replaceChar
  induction s with
  | nil => rfl
  | cons c s ih =>
    have hs := ih fun d hd => h d (List.mem_cons_of_mem c hd)
    have hws := isWhitespace_replaced (h c List.mem_cons_self)
    rw [List.map_cons, List.filter_cons, List.filter_cons, hs, hws]
    by_cases hc : c = '<'
    · simp [hc]
    · simp [hc]

/-- Reading a field keeps its characters and their order, fillers apart. -/
lemma filter_trimField {s : Str} (h : ∀ c ∈ s, Icao.IsMrzChar c) :
    (trimField s).filter (fun c => !isWhitespace c) = s.filter (· ≠ '<') := by
  rw [trimField, filter_trim, filter_replaceAngleBracketsWithSpaces h]

/-- The parts on either side of the first double filler are all there is but fillers. -/
lemma filter_splitOnceDouble (s : Str) :
    (splitOnceDouble s).1.filter (· ≠ '<') ++ ((splitOnceDouble s).2.getD []).filter (· ≠ '<') =
      s.filter (· ≠ '<') := by
  fun_induction splitOnceDouble s with
  | case1 s => simp
  | case2 => rfl
  | case3 c s hdouble ih =>
    rw [List.filter_cons, List.filter_cons, ← ih]
    split
    · rw [List.cons_append]
    · rfl

lemma mem_of_mem_splitOnceDouble {s : Str} {c : Char}
    (h : c ∈ (splitOnceDouble s).1 ∨ c ∈ (splitOnceDouble s).2.getD []) : c ∈ s := by
  fun_induction splitOnceDouble s with
  | case1 s => simp_all
  | case2 => simp_all
  | case3 d s hdouble ih =>
    rw [List.mem_cons] at h ⊢
    rcases h with (rfl | h) | h
    · exact Or.inl rfl
    · exact Or.inr (ih (Or.inl h))
    · exact Or.inr (ih (Or.inr h))

/-- Surnames and given names keep the characters of the names and their order, fillers apart. -/
lemma filter_parseNames {s : Str} (h : ∀ c ∈ s, Icao.IsMrzChar c) :
    (parseNames s).1.filter (fun c => !isWhitespace c) ++
      (parseNames s).2.filter (fun c => !isWhitespace c) = s.filter (· ≠ '<') := by
  obtain ⟨fillers, hs, hfillers⟩ := exists_trimEndMatches '<' s
  have hmem : ∀ c ∈ trimEndMatches '<' s, Icao.IsMrzChar c := by
    intro c hc
    apply h
    rw [hs]
    exact List.mem_append_left fillers hc
  have hnone : fillers.filter (· ≠ '<') = [] := by
    rw [List.filter_eq_nil_iff]
    exact fun c hc => by simp [hfillers c hc]
  unfold parseNames
  dsimp only
  rw [filter_trimField fun c hc => hmem c (mem_of_mem_splitOnceDouble (Or.inl hc)),
    filter_trimField fun c hc => hmem c (mem_of_mem_splitOnceDouble (Or.inr hc)),
    filter_splitOnceDouble]
  conv_rhs => rw [hs, List.filter_append, hnone, List.append_nil]

/-- A repaired digit needs no further repair. -/
lemma fixCheckDigit_fixCheckDigit (s : Str) : fixCheckDigit (fixCheckDigit s) = fixCheckDigit s := by
  have hchar : ∀ c, letterToDigit (letterToDigit c) = letterToDigit c := by
    intro c
    have hcases : letterToDigit c = c ∨ letterToDigit c ∈ ['0', '1', '2', '8'] := by
      unfold letterToDigit
      split <;> simp
    simp only [List.mem_cons, List.not_mem_nil, or_false] at hcases
    rcases hcases with hsame | hzero | hone | htwo | height
    · rw [hsame, hsame]
    · rw [hzero]
      rfl
    · rw [hone]
      rfl
    · rw [htwo]
      rfl
    · rw [height]
      rfl
  unfold fixCheckDigit replaceSimilarLettersWithDigits
  rw [List.map_map]
  exact List.map_congr_left fun c _ => hchar c

/-- A field of fillers is empty. -/
lemma trimField_fillers {s : Str} (h : ∀ c ∈ s, c = '<') : trimField s = [] := by
  have hspaces : ∀ c ∈ replaceAngleBracketsWithSpaces s, isWhitespace c = true := by
    intro c hc
    obtain ⟨d, hd, rfl⟩ := List.mem_map.mp hc
    rw [if_pos (h d hd)]
    rfl
  exact trim_append (s := []) (fun c hc => absurd hc List.not_mem_nil) hspaces

/-- A field that has letters only, or has been repaired to have them, is read like a field trimmed
of the fillers at its end when nothing was repaired and there are no other fillers. -/
lemma trimField_map_eq {s : Str} {f : Char → Char} (hs : ∀ c ∈ s, Icao.IsMrzChar c)
    (hfiller : f '<' = '<') (hf : ∀ c, Icao.IsMrzChar c → c ≠ '<' → Icao.IsMrzChar (f c) ∧ f c ≠ '<') :
    trimField (s.map f) = trimEndMatches '<' s ↔
      '<' ∉ trimEndMatches '<' s ∧ ∀ c ∈ s, f c = c := by
  obtain ⟨fillers, hsplit, hfillers⟩ := exists_trimEndMatches '<' s
  generalize trimEndMatches '<' s = t at hsplit ⊢
  have hnot : '<' ∉ trimField (s.map f) := by
    intro hmem
    obtain ⟨before, after, hrest, -⟩ := exists_trim (replaceAngleBracketsWithSpaces (s.map f))
    have hin : '<' ∈ replaceAngleBracketsWithSpaces (s.map f) := by
      rw [hrest]
      exact List.mem_append_left _ (List.mem_append_right _ hmem)
    obtain ⟨c, -, hc⟩ := List.mem_map.mp hin
    split at hc
    · exact absurd hc (by decide)
    · rename_i hne
      exact hne hc
  have hread : '<' ∉ t → trimField (s.map f) = t.map f := by
    intro ht
    have hchar : ∀ c ∈ t.map f, (if c = '<' then ' ' else c) = c := by
      intro c hc
      obtain ⟨d, hd, rfl⟩ := List.mem_map.mp hc
      have hdm : Icao.IsMrzChar d := hs d (by rw [hsplit]; exact List.mem_append_left _ hd)
      exact if_neg (hf d hdm fun heq => ht (heq ▸ hd)).2
    have hreplace : replaceAngleBracketsWithSpaces (s.map f) =
        t.map f ++ replaceAngleBracketsWithSpaces (fillers.map f) := by
      rw [hsplit, List.map_append, replaceAngleBracketsWithSpaces, replaceChar, List.map_append]
      congr 1
      calc (t.map f).map (fun c => if c = '<' then ' ' else c) = (t.map f).map id :=
            List.map_congr_left hchar
        _ = t.map f := List.map_id _
    rw [trimField, hreplace]
    apply trim_append
    · intro c hc
      obtain ⟨d, hd, rfl⟩ := List.mem_map.mp hc
      have hdm : Icao.IsMrzChar d := hs d (by rw [hsplit]; exact List.mem_append_left _ hd)
      exact (hf d hdm fun heq => ht (heq ▸ hd)).1.isWhitespace
    · intro c hc
      obtain ⟨d, hd, rfl⟩ := List.mem_map.mp hc
      obtain ⟨x, hx, rfl⟩ := List.mem_map.mp hd
      rw [hfillers x hx, hfiller, if_pos rfl]
      rfl
  constructor
  · intro heq
    have ht : '<' ∉ t := heq ▸ hnot
    refine ⟨ht, fun c hc => ?_⟩
    rw [hsplit, List.mem_append] at hc
    rcases hc with hc | hc
    · have hmap : t.map f = t.map id := by rw [← hread ht, heq, List.map_id]
      exact List.map_inj_left.mp hmap c hc
    · rw [hfillers c hc, hfiller]
  · rintro ⟨ht, hfix⟩
    rw [hread ht]
    calc t.map f = t.map id :=
          List.map_congr_left fun c hc => hfix c (by rw [hsplit]; exact List.mem_append_left _ hc)
      _ = t := List.map_id t

/-! ## Facts about dates -/

lemma isWhitespace_digitChar {d : Nat} (h : d < 10) : isWhitespace (Nat.digitChar d) = false :=
  Icao.IsMrzChar.isWhitespace (Or.inr (Or.inl (isDigit_digitChar h)))

lemma trimStart_digitChar {d : Nat} (h : d < 10) (s : Str) :
    trimStart (Nat.digitChar d :: s) = Nat.digitChar d :: s := by
  rw [trimStart, List.dropWhile_cons_of_neg (by simp [isWhitespace_digitChar h])]

lemma scanNumber_pair {a b : Nat} (ha : a < 10) (hb : b < 10) (s : Str) :
    scanNumber 2 (trimStart (a.digitChar :: b.digitChar :: s)) = some (a * 10 + b, s) := by
  rw [trimStart_digitChar ha]
  simp [scanNumber, isDigit_digitChar ha, isDigit_digitChar hb, ofDigits_pair ha hb]

/-- The text of a year of four digits. -/
lemma padZero_year {century : Nat} (hc : century = 1900 ∨ century = 2000) {a b : Nat} (ha : a < 10)
    (hb : b < 10) : ∃ y₁ y₂ : Nat, (y₁ < 10 ∧ y₂ < 10 ∧ y₁ * 1000 + y₂ * 100 = century) ∧
      padZero 4 (century + (a * 10 + b)) =
        [y₁.digitChar, y₂.digitChar, a.digitChar, b.digitChar] := by
  have hold : ∀ a < 10, ∀ b < 10, padZero 4 (1900 + (a * 10 + b)) =
      [Nat.digitChar 1, Nat.digitChar 9, a.digitChar, b.digitChar] := by decide
  have hnew : ∀ a < 10, ∀ b < 10, padZero 4 (2000 + (a * 10 + b)) =
      [Nat.digitChar 2, Nat.digitChar 0, a.digitChar, b.digitChar] := by decide
  rcases hc with rfl | rfl
  · exact ⟨1, 9, by omega, hold a ha b hb⟩
  · exact ⟨2, 0, by omega, hnew a ha b hb⟩

lemma parseFromStr_digits {y₁ y₂ a₁ a₂ b₁ b₂ c₁ c₂ : Nat} (hy₁ : y₁ < 10) (hy₂ : y₂ < 10)
    (ha₁ : a₁ < 10) (ha₂ : a₂ < 10) (hb₁ : b₁ < 10) (hb₂ : b₂ < 10) (hc₁ : c₁ < 10)
    (hc₂ : c₂ < 10) :
    parseFromStr ([y₁.digitChar, y₂.digitChar, a₁.digitChar, a₂.digitChar] ++
      [b₁.digitChar, b₂.digitChar, c₁.digitChar, c₂.digitChar]) =
      NaiveDate.fromYmdOpt ((y₁ * 1000 + y₂ * 100 + (a₁ * 10 + a₂) : Nat) : Int) (b₁ * 10 + b₂)
        (c₁ * 10 + c₂) := by
  have hyear : scanNumber 4 (trimStart (y₁.digitChar :: y₂.digitChar :: a₁.digitChar ::
      a₂.digitChar :: [b₁.digitChar, b₂.digitChar, c₁.digitChar, c₂.digitChar])) =
      some (y₁ * 1000 + y₂ * 100 + (a₁ * 10 + a₂),
        [b₁.digitChar, b₂.digitChar, c₁.digitChar, c₂.digitChar]) := by
    rw [trimStart_digitChar hy₁]
    simp only [scanNumber, List.take_succ_cons, List.take_zero, List.takeWhile_cons,
      isDigit_digitChar hy₁, isDigit_digitChar hy₂, isDigit_digitChar ha₁, isDigit_digitChar ha₂,
      if_true, List.takeWhile_nil, reduceCtorEq, if_false, List.length_cons, List.length_nil,
      List.drop_succ_cons, List.drop_zero, ofDigits, List.foldl_cons, List.foldl_nil,
      toNat_digitChar hy₁, toNat_digitChar hy₂, toNat_digitChar ha₁, toNat_digitChar ha₂]
    congr 2
    omega
  unfold parseFromStr
  rw [List.cons_append, List.cons_append, List.cons_append, List.cons_append, List.nil_append, hyear]
  simp only [Option.bind_eq_bind, Option.bind_some, scanNumber_pair hb₁ hb₂,
    scanNumber_pair hc₁ hc₂, if_true]

/-- The date that six digits stand for. -/
lemma parseDate_digits {a₁ a₂ b₁ b₂ c₁ c₂ : Nat} (ha₁ : a₁ < 10) (ha₂ : a₂ < 10) (hb₁ : b₁ < 10)
    (hb₂ : b₂ < 10) (hc₁ : c₁ < 10) (hc₂ : c₂ < 10) (milestoneYear : Int) :
    parseDate (trimField [a₁.digitChar, a₂.digitChar, b₁.digitChar, b₂.digitChar, c₁.digitChar,
        c₂.digitChar]) milestoneYear =
      Outcome.ofOption .invalidMRZInput (NaiveDate.fromYmdOpt
        ((if ((a₁ * 10 + a₂ : Nat) : Int) > milestoneYear then 1900 else 2000) +
          (a₁ * 10 + a₂ : Nat)) (b₁ * 10 + b₂) (c₁ * 10 + c₂)) := by
  generalize hs : [a₁.digitChar, a₂.digitChar, b₁.digitChar, b₂.digitChar, c₁.digitChar,
    c₂.digitChar] = s
  have hdigits : ∀ c ∈ s, c.isDigit = true := by
    rw [← hs]
    simp [isDigit_digitChar ha₁, isDigit_digitChar ha₂, isDigit_digitChar hb₁,
      isDigit_digitChar hb₂, isDigit_digitChar hc₁, isDigit_digitChar hc₂]
  have hmrz : ∀ c ∈ s, Icao.IsMrzChar c := fun c hc => Or.inr (Or.inl (hdigits c hc))
  have hlen : s.length = 6 := by
    rw [← hs]
    rfl
  have htrim : trim s = s := by
    have happend := trim_append (t := []) (fun c hc => (hmrz c hc).isWhitespace) (by simp)
    rwa [List.append_nil] at happend
  have hreplace : replaceAngleBracketsWithSpaces s = s := by
    have hchar : ∀ c ∈ s, (if c = '<' then ' ' else c) = c := by
      intro c hc
      rw [if_neg]
      rintro rfl
      exact absurd (hdigits _ hc) (by decide)
    calc replaceAngleBracketsWithSpaces s = s.map id := List.map_congr_left hchar
      _ = s := List.map_id s
  have hascii := Icao.isAscii_of_isMrzChar hmrz
  have hyy : field s 0 2 = [a₁.digitChar, a₂.digitChar] := by
    rw [← hs]
    rfl
  have hrest : field s 2 4 = [b₁.digitChar, b₂.digitChar, c₁.digitChar, c₂.digitChar] := by
    rw [← hs]
    rfl
  unfold parseDate
  rw [trimField, hreplace, htrim, htrim]
  dsimp only
  rw [hascii.byteLen_eq, hlen, if_neg (by omega),
    get?_eq hascii (by omega) (by omega), get?_eq hascii (by omega) (by omega)]
  simp only [Nat.sub_zero, Nat.reduceSub, hyy, hrest, Outcome.ofOption_some, Outcome.ok_bind,
    parseSigned_pair ha₁ ha₂ (show 99 ≤ 2 ^ 31 - 1 by norm_num)]
  generalize hyear : a₁ * 10 + a₂ = yy
  have hpad : ∀ century : Nat, century = 1900 ∨ century = 2000 →
      parseFromStr (padZero 4 ((century : Int) + (yy : Int)).toNat ++
        [b₁.digitChar, b₂.digitChar, c₁.digitChar, c₂.digitChar]) =
        NaiveDate.fromYmdOpt ((century : Int) + (yy : Int)) (b₁ * 10 + b₂) (c₁ * 10 + c₂) := by
    intro century hcentury
    obtain ⟨y₁, y₂, ⟨hy₁, hy₂, hsum⟩, htext⟩ := padZero_year hcentury ha₁ ha₂
    rw [← Nat.cast_add, Int.toNat_natCast, ← hyear, htext,
      parseFromStr_digits hy₁ hy₂ ha₁ ha₂ hb₁ hb₂ hc₁ hc₂, hsum]
  split
  · exact congrArg _ (hpad 1900 (Or.inl rfl))
  · exact congrArg _ (hpad 2000 (Or.inr rfl))

/-- The date that a text of six digits stands for. -/
lemma parseDate_eq {s : Str} (hlen : s.length = 6) (hdigits : ∀ c ∈ s, c.isDigit = true)
    (milestoneYear : Int) :
    parseDate (trimField s) milestoneYear =
      Outcome.ofOption .invalidMRZInput (NaiveDate.fromYmdOpt
        ((if (ofDigits (field s 0 2) : Int) > milestoneYear then 1900 else 2000) +
          ofDigits (field s 0 2)) (ofDigits (field s 2 2)) (ofDigits (field s 4 2))) := by
  obtain ⟨a₁, a₂, b₁, b₂, c₁, c₂, ⟨ha₁, ha₂⟩, ⟨hb₁, hb₂⟩, ⟨hc₁, hc₂⟩, rfl⟩ :=
    exists_three_pairs hlen hdigits
  rw [parseDate_digits ha₁ ha₂ hb₁ hb₂ hc₁ hc₂]
  simp only [field, List.drop_succ_cons, List.drop_zero, List.take_succ_cons, List.take_zero,
    ofDigits_pair ha₁ ha₂, ofDigits_pair hb₁ hb₂, ofDigits_pair hc₁ hc₂]

end MrzParser
