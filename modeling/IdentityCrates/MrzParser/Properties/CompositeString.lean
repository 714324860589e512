import IdentityCrates.MrzParser.Parser
import Mathlib.Data.List.Forall2

/-!
# The composite check digit of a card of three lines

The standard computes the composite check digit over characters of the first two lines as they are
printed (`Icao.td1`).  The parser puts the text together again, from the document number, its check
digit and the optional data that it has cut out of the first line.

Cut at its place in the layout, a number goes back to where it was, long or not.  A number that the
pattern of a country has found stands in one piece on the line; if it is longer than nine characters
the parser gives it a filler that is not printed, as if it were split in the layout, and the text is
one character too long.  `ShortNumber` says on the line when that does not happen, and
`composite_printed_iff` that the text is the printed one then and only then.
-/

namespace MrzParser

open Rust Text Icao

open Dmrtd (NaiveDate)

/-! ## Repaired text -/

/-- The text is the printed one, with digits for some of the letters that look like them. -/
def Repaired (printed text : Str) : Prop :=
  List.Forall₂ (fun c d => d = c ∨ d = letterToDigit c) printed text

namespace Repaired

lemma refl (s : Str) : Repaired s s := List.forall₂_same.mpr fun _ _ => Or.inl rfl

lemma map_letterToDigit (s : Str) : Repaired s (s.map letterToDigit) := by
  unfold Repaired
  rw [List.forall₂_map_right_iff]
  exact List.forall₂_same.mpr fun _ _ => Or.inr rfl

lemma append {s t s' t' : Str} (h : Repaired s t) (h' : Repaired s' t') :
    Repaired (s ++ s') (t ++ t') := List.rel_append h h'

end Repaired

namespace Td1

/-- `final_check_string_fixed`: the text that the composite check digit is computed over. -/
def finalCheckString (firstLine secondLine : Str) : Outcome MRZError Str := do
  let document ← numberFields firstLine
  let documentNumberForCheckString ← numberForCheckString document.number document.isLong
  return documentNumberForCheckString ++ fixCheckDigit document.checkDigit ++
    document.optionalData ++ fixDate (field secondLine 0 6) ++
    fixCheckDigit (field secondLine 6 1) ++ fixDate (field secondLine 8 6) ++
    fixCheckDigit (field secondLine 14 1) ++ field secondLine 18 11

/-- The pattern of a country, if there is one, does not make a number of more than nine characters
of the line.  Of a match of ten characters the last one may be the check digit of the others. -/
def ShortNumber (firstLine : Str) : Prop :=
  ∀ pattern n, getCountryPattern firstLine = some pattern →
    matchLength pattern.documentNumberPattern (firstLine.drop 5) = some n →
    n ≤ 9 ∨ n = 10 ∧ validates (field firstLine 5 10) (field firstLine 15 1) = false ∧
      validates (field firstLine 5 9) (field firstLine 14 1) = true

/-- A document in order: the check digits of the number and of the dates are right, and that of the
composite is the check digit of what is printed. -/
structure InOrder (document : NumberFields) (first second third : Str) : Prop
    extends td1.Checked (first ++ second ++ third) where
  number : document.checkDigit = [checkChar document.number]
  birthChars : ∀ c ∈ field second 0 6, c.isDigit = true ∨ c = '<'
  expiryChars : ∀ c ∈ field second 8 6, c.isDigit = true ∨ c = '<'

/-! ## The three lines as one text -/

section Lines

variable {first second : Str}

/-- A field of the second line. -/
lemma field_second (third : Str) (hfirst : first.length = 30) (hsecond : second.length = 30)
    {i n : Nat} (h : i + n ≤ 30) : field (first ++ second ++ third) (30 + i) n = field second i n := by
  rw [field, List.append_assoc, ← List.drop_drop, List.drop_left' hfirst,
    List.drop_append_of_le_length (by omega), List.take_append_of_le_length
      (by rw [List.length_drop]; omega), field]

lemma compositeText_lines (third : Str) (hfirst : first.length = 30)
    (hsecond : second.length = 30) :
    td1.compositeText (first ++ second ++ third) =
      field first 5 25 ++ (field second 0 7 ++ (field second 8 7 ++ field second 18 11)) := by
  have hupper : field (first ++ second ++ third) 5 25 = field first 5 25 := by
    rw [field, List.append_assoc, List.drop_append_of_le_length (by omega),
      List.take_append_of_le_length (by rw [List.length_drop]; omega), field]
  have hbirth := field_second third hfirst hsecond (show 0 + 7 ≤ 30 by omega)
  have hexpiry := field_second third hfirst hsecond (show 8 + 7 ≤ 30 by omega)
  have hoptional := field_second third hfirst hsecond (show 18 + 11 ≤ 30 by omega)
  simp only [Layout.compositeText, td1, List.map_cons, List.map_nil, List.flatten_cons,
    List.flatten_nil, List.append_nil, hupper]
  rw [← hbirth, ← hexpiry, ← hoptional]

end Lines

/-! ## The number, put together again -/

/-- What the number, its check digit and the optional data make in the check string. -/
def upperText (document : NumberFields) : Outcome MRZError Str := do
  let documentNumberForCheckString ← numberForCheckString document.number document.isLong
  return documentNumberForCheckString ++ fixCheckDigit document.checkDigit ++ document.optionalData

/-- The text is the printed one with the check digit of the number repaired where it stands. -/
def PutBack (document : NumberFields) (printed text : Str) : Prop :=
  ∃ before after, printed = before ++ document.checkDigit ++ after ∧
    text = before ++ fixCheckDigit document.checkDigit ++ after

lemma PutBack.repaired {document : NumberFields} {printed text : Str}
    (h : PutBack document printed text) : Repaired printed text := by
  obtain ⟨before, after, rfl, rfl⟩ := h
  exact ((Repaired.refl _).append (Repaired.map_letterToDigit _)).append (Repaired.refl _)

lemma PutBack.text_eq {document : NumberFields} {printed text : Str}
    (h : PutBack document printed text)
    (hdigit : fixCheckDigit document.checkDigit = document.checkDigit) : text = printed := by
  obtain ⟨before, after, rfl, rfl⟩ := h
  rw [hdigit]

lemma numberForCheckString_long {part1 part2 : Str} (h1 : IsAscii part1) (h2 : IsAscii part2)
    (hlen : part1.length = 9) :
    numberForCheckString (part1 ++ part2) true = .ok (part1 ++ '<' :: part2) := by
  have hascii := h1.append h2
  rw [numberForCheckString, if_pos rfl, Text.slice_eq hascii (by omega)
    (by rw [List.length_append]; omega), Text.sliceFrom_eq hascii
    (by rw [List.length_append]; omega), Outcome.ok_bind, Outcome.ok_bind, field, List.drop_zero,
    List.take_left' hlen, List.drop_left' hlen]
  rfl

/-- Cut at its place in the layout, a number goes back there. -/
lemma upperText_default {firstLine : Str} (hfirst : IsAscii firstLine)
    (lfirst : firstLine.length = 30) {document : NumberFields}
    (h : defaultFields firstLine = .ok document) :
    ∃ text, upperText document = .ok text ∧ PutBack document (field firstLine 5 25) text := by
  by_cases hlong : field firstLine 14 1 = ['<']
  · cases hn : (trimEndMatches '<' (field firstLine 15 13)).length with
    | zero =>
      rw [defaultFields_eq hfirst lfirst, if_pos hlong, List.length_eq_zero_iff.mp hn] at h
      cases h
    | succ n =>
      have hbound : n + 1 ≤ 13 := by
        rw [← hn]
        exact (length_trimEndMatches_le _ _).trans_eq (length_field (by omega))
      rw [defaultFields_long hfirst lfirst hlong hn] at h
      obtain rfl := Outcome.ok.inj h
      refine ⟨field firstLine 5 9 ++ '<' :: field firstLine 15 n ++
        fixCheckDigit (field firstLine (15 + n) 1) ++ firstLine.drop (15 + (n + 1)), ?_, ?_⟩
      · unfold upperText
        rw [numberForCheckString_long (hfirst.field 5 9) (hfirst.field 15 n)
          (length_field (by omega)), Outcome.ok_bind]
        rfl
      · refine ⟨field firstLine 5 9 ++ '<' :: field firstLine 15 n,
          firstLine.drop (15 + (n + 1)), ?_, rfl⟩
        dsimp only
        rw [← field_eq_drop lfirst, ← List.singleton_append, ← hlong, List.append_assoc _ _
            (field firstLine (15 + n) 1), List.append_assoc _ _ (field firstLine (15 + n) 1),
            field_append_field, List.append_assoc, List.append_assoc]
        rw [field_append_field, field_append_field firstLine 14 1, field_append_field]
        congr 1
        omega
  · rw [defaultFields_eq hfirst lfirst, if_neg hlong] at h
    obtain rfl := Outcome.ok.inj h
    refine ⟨_, rfl, field firstLine 5 9, field firstLine 15 15, ?_, rfl⟩
    rw [← field_append_field firstLine 5 10 15, ← field_append_field firstLine 5 9 1]

/-- A number that follows the prefix of the country goes back there if it has at most nine
characters, and otherwise gets one that was not printed. -/
lemma upperText_length {firstLine : Str} (hfirst : IsAscii firstLine)
    (lfirst : firstLine.length = 30) {k : Nat} (hk : 5 + k < 30) :
    ∃ text, upperText (fieldsOfLength firstLine k) = .ok text ∧
      (k ≤ 9 → PutBack (fieldsOfLength firstLine k) (field firstLine 5 25) text) ∧
      (9 < k → text.length = 26) := by
  by_cases hlong : 9 < k
  · refine ⟨field firstLine 5 9 ++ '<' :: field firstLine 14 (k - 9) ++
      fixCheckDigit (field firstLine (5 + k) 1) ++ firstLine.drop (5 + k + 1), ?_,
      fun hshort => absurd hlong (by omega), fun _ => ?_⟩
    · have hsplit : field firstLine 5 k = field firstLine 5 9 ++ field firstLine 14 (k - 9) := by
        rw [show (14 : Nat) = 5 + 9 from rfl, field_append_field, Nat.add_sub_cancel' hlong.le]
      unfold upperText fieldsOfLength
      dsimp only
      rw [decide_eq_true hlong, hsplit, numberForCheckString_long (hfirst.field 5 9)
        (hfirst.field 14 (k - 9)) (length_field (by omega)), Outcome.ok_bind]
      rfl
    · simp only [List.length_append, List.length_cons, List.length_drop, fixCheckDigit,
        replaceSimilarLettersWithDigits, List.length_map, lfirst]
      rw [length_field (by omega), length_field (by omega), length_field (by omega)]
      omega
  · refine ⟨field firstLine 5 k ++ fixCheckDigit (field firstLine (5 + k) 1) ++
      firstLine.drop (5 + k + 1), ?_, fun _ => ?_, fun h => absurd h hlong⟩
    · unfold upperText fieldsOfLength
      dsimp only
      rw [decide_eq_false hlong]
      rfl
    · refine ⟨field firstLine 5 k, firstLine.drop (5 + k + 1), ?_, rfl⟩
      unfold fieldsOfLength
      dsimp only
      rw [← field_eq_drop lfirst, field_append_field, Nat.add_assoc 5 k 1, field_append_field]
      congr 1
      omega

/-- The number that is taken from a match of `n` characters. -/
lemma splitNumber_eq_ok {firstLine : Str} {n : Nat} {document : NumberFields} (hn : n ≤ 25)
    (h : splitNumber firstLine n = .ok document) :
    ∃ k, 5 + k < 30 ∧ document = fieldsOfLength firstLine k ∧
      (k ≤ 9 ↔ n ≤ 9 ∨ n = 10 ∧ validates (field firstLine 5 10) (field firstLine 15 1) = false ∧
        validates (field firstLine 5 9) (field firstLine 14 1) = true) := by
  unfold splitNumber at h
  split at h
  · rename_i hfull
    refine ⟨n, hfull.1, (Outcome.ok.inj h).symm, fun hshort => Or.inl hshort, ?_⟩
    rintro (hshort | ⟨rfl, hnot, -⟩)
    · exact hshort
    · rw [hfull.2] at hnot
      cases hnot
  · rename_i hfull
    split at h
    · rename_i hshorter
      refine ⟨n - 1, by omega, (Outcome.ok.inj h).symm, fun hshort => ?_, ?_⟩
      · by_cases hnine : n ≤ 9
        · exact Or.inl hnine
        · obtain rfl : n = 10 := by omega
          refine Or.inr ⟨rfl, ?_, hshorter.2⟩
          rw [Bool.eq_false_iff]
          exact fun hvalid => hfull ⟨by decide, hvalid⟩
      · rintro (hshort | ⟨rfl, -, -⟩) <;> omega
    · rename_i hshorter
      split at h
      · rename_i hlt
        refine ⟨n, hlt, (Outcome.ok.inj h).symm, fun hshort => Or.inl hshort, ?_⟩
        rintro (hshort | ⟨rfl, -, hvalid⟩)
        · exact hshort
        · exact absurd ⟨by decide, hvalid⟩ hshorter
      · cases h

/-- The upper line gives the printed characters exactly for a short number. -/
lemma upperText_numberFields {firstLine : Str} (hfirst : IsAscii firstLine)
    (lfirst : firstLine.length = 30) {document : NumberFields}
    (h : numberFields firstLine = .ok document) :
    ∃ text, upperText document = .ok text ∧
      (ShortNumber firstLine → PutBack document (field firstLine 5 25) text) ∧
      (¬ ShortNumber firstLine → text.length = 26) := by
  unfold numberFields at h
  cases hcountry : getCountryPattern firstLine with
  | none =>
    rw [hcountry] at h
    obtain ⟨text, htext, hback⟩ := upperText_default hfirst lfirst h
    refine ⟨text, htext, fun _ => hback, fun hlong => absurd ?_ hlong⟩
    intro pattern n hpattern
    rw [hcountry] at hpattern
    cases hpattern
  | some pattern =>
    rw [hcountry] at h
    dsimp only at h
    rw [countryFields_eq (List.mem_of_find?_eq_some hcountry) hfirst lfirst] at h
    cases hmatch : matchLength pattern.documentNumberPattern (firstLine.drop 5) with
    | none =>
      rw [MRZCountryPattern.captures, hmatch] at h
      cases h
    | some n =>
      have hle := (matchLength_spec hmatch).1
      rw [List.length_drop, lfirst] at hle
      rw [MRZCountryPattern.captures, hmatch] at h
      dsimp only [Option.map_some] at h
      rw [List.length_take, List.length_drop, lfirst, Nat.min_eq_left hle] at h
      obtain ⟨k, hk, rfl, hshort⟩ := splitNumber_eq_ok hle h
      have hiff : k ≤ 9 ↔ ShortNumber firstLine := by
        rw [hshort]
        constructor
        · intro hbound pattern' n' hpattern' hmatch'
          obtain rfl := Option.some.inj (hcountry.symm.trans hpattern')
          obtain rfl := Option.some.inj (hmatch.symm.trans hmatch')
          exact hbound
        · exact fun hbound => hbound pattern n hcountry hmatch
      obtain ⟨text, htext, hback, hlength⟩ := upperText_length hfirst lfirst hk
      exact ⟨text, htext, fun h => hback (hiff.mpr h),
        fun h => hlength (not_le.mp fun hle => h (hiff.mp hle))⟩

/-! ## The check string -/

section CheckString

variable {first second third : Str}

/-- The fields of the second line, repaired. -/
def lowerText (secondLine : Str) : Str :=
  fixDate (field secondLine 0 6) ++ fixCheckDigit (field secondLine 6 1) ++
    fixDate (field secondLine 8 6) ++ fixCheckDigit (field secondLine 14 1) ++
    field secondLine 18 11

lemma repaired_lowerText (second : Str) :
    Repaired (field second 0 7 ++ (field second 8 7 ++ field second 18 11)) (lowerText second) := by
  have hdates : ∀ i, Repaired (field second i 6 ++ field second (i + 6) 1)
      (fixDate (field second i 6) ++ fixCheckDigit (field second (i + 6) 1)) := fun i =>
    (Repaired.map_letterToDigit _).append (Repaired.map_letterToDigit _)
  rw [← field_append_field second 0 6 1, ← field_append_field second 8 6 1, ← List.append_assoc,
    lowerText, List.append_assoc (_ ++ _) (fixDate _)]
  exact ((hdates 0).append (hdates 8)).append (Repaired.refl _)

lemma finalCheckString_eq {document : NumberFields} (h : numberFields first = .ok document)
    {text : Str} (htext : upperText document = .ok text) (second : Str) :
    finalCheckString first second = .ok (text ++ lowerText second) := by
  obtain ⟨number, hnumber, hupper⟩ := Outcome.bind_eq_ok.mp htext
  obtain rfl := Outcome.ok.inj hupper
  unfold finalCheckString lowerText
  rw [h, Outcome.ok_bind, hnumber, Outcome.ok_bind, Outcome.pure_eq]
  simp only [List.append_assoc]

/-- On a document in order nothing is repaired. -/
lemma lowerText_inOrder {document : NumberFields} (hfirst : first.length = 30)
    (hsecond : second.length = 30) (h : InOrder document first second third) :
    lowerText second = field second 0 7 ++ (field second 8 7 ++ field second 18 11) := by
  have hbirthCd : field second 6 1 = [checkChar (field second 0 6)] := by
    rw [← field_second third hfirst hsecond (show 6 + 1 ≤ 30 by omega),
      ← field_second third hfirst hsecond (show 0 + 6 ≤ 30 by omega)]
    exact h.birthDate
  have hexpiryCd : field second 14 1 = [checkChar (field second 8 6)] := by
    rw [← field_second third hfirst hsecond (show 14 + 1 ≤ 30 by omega),
      ← field_second third hfirst hsecond (show 8 + 6 ≤ 30 by omega)]
    exact h.expiryDate
  have hbirth : fixDate (field second 0 6) = field second 0 6 :=
    replaceSimilarLettersWithDigits_eq h.birthChars
  have hexpiry : fixDate (field second 8 6) = field second 8 6 :=
    replaceSimilarLettersWithDigits_eq h.expiryChars
  rw [← field_append_field second 0 6 1, ← field_append_field second 8 6 1, Nat.zero_add, lowerText,
    hbirth, hexpiry, hbirthCd, hexpiryCd, fixCheckDigit_checkChar, fixCheckDigit_checkChar]
  simp only [List.append_assoc]

lemma ofOption_bind_ne {α β : Type} {x : Option α} {f : α → Outcome MRZError β}
    (h : ∀ a, f a ≠ .err .invalidMRZValue) :
    (Outcome.ofOption .invalidMRZInput x >>= f) ≠ .err .invalidMRZValue := by
  cases x with
  | none => simp
  | some a => exact h a

/-- A date that cannot be read is no matter of the composite. -/
lemma parseDate_ne_invalidMRZValue (s : Str) (milestoneYear : Int) :
    parseDate s milestoneYear ≠ .err .invalidMRZValue := by
  unfold parseDate
  dsimp only
  split
  · simp
  · refine ofOption_bind_ne fun yyStr => ofOption_bind_ne fun rest => ofOption_bind_ne fun year => ?_
    cases parseFromStr _ <;> simp

/-- So nothing behind the check of the composite fails as that check does. -/
lemma dates_ne_invalidMRZValue {α : Type} (today : NaiveDate) (birth expiry : Str)
    (g : NaiveDate → NaiveDate → α) :
    (do let birthDate ← parseBirthDate today birth
        let expiryDate ← parseExpiryDate expiry
        return g birthDate expiryDate) ≠ Outcome.err MRZError.invalidMRZValue := by
  intro herr
  rcases Outcome.bind_eq_err.mp herr with hbirth | ⟨birthDate, -, herr⟩
  · exact parseDate_ne_invalidMRZValue _ _ hbirth
  · rcases Outcome.bind_eq_err.mp herr with hexpiry | ⟨expiryDate, -, hok⟩
    · exact parseDate_ne_invalidMRZValue _ _ hexpiry
    · cases hok

/-- The check digits of the number and of the dates are right, look-alikes repaired. -/
def DigitsRight (document : NumberFields) (secondLine : Str) : Prop :=
  parseUnsigned 255 (fixCheckDigit document.checkDigit) = some (getCheckDigit document.number) ∧
  parseUnsigned 255 (fixCheckDigit (field secondLine 6 1)) =
    some (getCheckDigit (fixDate (field secondLine 0 6))) ∧
  parseUnsigned 255 (fixCheckDigit (field secondLine 14 1)) =
    some (getCheckDigit (fixDate (field secondLine 8 6)))

/-- The composite digit is right for the text. -/
def CompositeRight (secondLine text : Str) : Prop :=
  parseUnsigned 255 (fixCheckDigit (field secondLine 29 1)) = some (getCheckDigit text)

section Validate

variable {β : Type} {cd value : Str} {e e' : MRZError} {f : Unit → Outcome MRZError β}

lemma validate_bind_isOk :
    (validate cd value e >>= f).isOk = true ↔
      parseUnsigned 255 cd = some (getCheckDigit value) ∧ (f ()).isOk = true := by
  unfold validate
  split
  · rename_i hwrong
    exact ⟨fun hok => Bool.noConfusion hok, fun hright => absurd hright.1 hwrong⟩
  · rename_i hright
    exact ⟨fun hok => ⟨not_not.mp hright, hok⟩, And.right⟩

/-- An error of another kind comes from what follows a check that has passed. -/
lemma validate_bind_err (hne : e ≠ e') :
    (validate cd value e >>= f) = .err e' ↔
      parseUnsigned 255 cd = some (getCheckDigit value) ∧ f () = .err e' := by
  unfold validate
  split
  · rename_i hwrong
    exact ⟨fun herr => absurd (Outcome.err.inj herr) hne, fun hright => absurd hright.1 hwrong⟩
  · rename_i hright
    exact ⟨fun herr => ⟨not_not.mp hright, herr⟩, And.right⟩

/-- An error that nothing later can be comes from the check. -/
lemma validate_bind_err_self (hf : f () ≠ .err e) :
    (validate cd value e >>= f) = .err e ↔
      ¬ parseUnsigned 255 cd = some (getCheckDigit value) := by
  unfold validate
  split
  · rename_i hwrong
    exact ⟨fun _ => hwrong, fun _ => rfl⟩
  · rename_i hright
    exact ⟨fun herr => absurd herr hf, fun hwrong => absurd hwrong hright⟩

end Validate

/-- The check string is what the composite digit is held against, once the other digits are
right. -/
lemma parseLines_composite (today : NaiveDate) {document : NumberFields} {string : Str}
    (hascii : IsAscii first ∧ IsAscii second ∧ IsAscii third)
    (hlen : first.length = 30 ∧ second.length = 30 ∧ third.length = 30)
    (hdocument : numberFields first = .ok document)
    (hstring : finalCheckString first second = .ok string) :
    ((parseLines today first second third).isOk = true →
        DigitsRight document second ∧ CompositeRight second string) ∧
      (parseLines today first second third = .err .invalidMRZValue ↔
        DigitsRight document second ∧ ¬ CompositeRight second string) := by
  unfold finalCheckString at hstring
  rw [hdocument, Outcome.ok_bind] at hstring
  obtain ⟨number, hnumber, hpure⟩ := Outcome.bind_eq_ok.mp hstring
  have htext := Outcome.ok.inj hpure
  rw [parseLines_eq today hascii.1 hascii.2.1 hascii.2.2 hlen.1 hlen.2.1 hlen.2.2, hdocument,
    Outcome.ok_bind, validate_bind_isOk, validate_bind_isOk, validate_bind_isOk, hnumber,
    Outcome.ok_bind, htext, validate_bind_isOk, validate_bind_err (by decide),
    validate_bind_err (by decide), validate_bind_err (by decide), validate_bind_err_self]
  swap
  · exact dates_ne_invalidMRZValue today _ _ _
  unfold DigitsRight CompositeRight
  constructor
  · rintro ⟨hright, hbirth, hexpiry, hcomposite, -⟩
    exact ⟨⟨hright, hbirth, hexpiry⟩, hcomposite⟩
  · constructor
    · rintro ⟨hright, hbirth, hexpiry, hcomposite⟩
      exact ⟨⟨hright, hbirth, hexpiry⟩, hcomposite⟩
    · rintro ⟨⟨hright, hbirth, hexpiry⟩, hcomposite⟩
      exact ⟨hright, hbirth, hexpiry, hcomposite⟩

end CheckString

/-! ## The printed characters -/

/-- The lines of a zone of three lines, behind the polishing. -/
lemma parse_polished (today : NaiveDate) {input : Option (List (Option Str))}
    {first second third : Str} (hpolish : polishInput input = some [first, second, third])
    (hvalid : isValidInput [first, second, third] = true) :
    MrzParser.parse today input = parseLines today first second third ∧
      (IsAscii first ∧ IsAscii second ∧ IsAscii third) ∧
      first.length = 30 ∧ second.length = 30 ∧ third.length = 30 := by
  have hascii : ∀ line ∈ [first, second, third], IsAscii line := fun line hline =>
    isAscii_of_isMrzChar ((polishInput_spec hpolish).2 line hline)
  obtain ⟨-, hlen⟩ := shape_of_isValidInput hascii hvalid
  refine ⟨?_, ⟨hascii _ (by simp), hascii _ (by simp), hascii _ (by simp)⟩, hlen _ (by simp),
    hlen _ (by simp), hlen _ (by simp)⟩
  rw [MrzParser.parse, hpolish, Outcome.ofOption_some, Outcome.ok_bind, if_pos hvalid, Td1.parse,
    if_pos hvalid]
  rfl

/-- **The composite check digit of a card.** For every zone of three lines of which the document
number can be cut out, the composite digit is held against `string`: an accepted zone has it, and a
zone with the other digits right is refused for it otherwise.  The text is the printed one with
look-alikes repaired, so that no document in order is refused, exactly if the pattern of the country
has not made a number of more than nine characters. -/
theorem composite_printed_iff (today : NaiveDate) {input : Option (List (Option Str))}
    {first second third : Str} {document : NumberFields}
    (hpolish : polishInput input = some [first, second, third])
    (hvalid : isValidInput [first, second, third] = true)
    (hdocument : numberFields first = .ok document) :
    ∃ string, finalCheckString first second = .ok string ∧
      ((MrzParser.parse today input).isOk = true →
        DigitsRight document second ∧ CompositeRight second string) ∧
      (MrzParser.parse today input = .err .invalidMRZValue ↔
        DigitsRight document second ∧ ¬ CompositeRight second string) ∧
      ((Repaired (td1.compositeText (first ++ second ++ third)) string ∧
          (InOrder document first second third →
            MrzParser.parse today input ≠ .err .invalidMRZValue)) ↔
        ShortNumber first) := by
  obtain ⟨hparse, hascii, hlen⟩ := parse_polished today hpolish hvalid
  obtain ⟨text, htext, hshort, hlong⟩ := upperText_numberFields hascii.1 hlen.1 hdocument
  have hstring := finalCheckString_eq hdocument htext second
  obtain ⟨haccepted, hrefused⟩ := parseLines_composite today hascii hlen hdocument hstring
  refine ⟨_, hstring, ?_⟩
  rw [hparse, compositeText_lines third hlen.1 hlen.2.1]
  refine ⟨haccepted, hrefused, fun h => ?_, fun h => ⟨?_, fun hinOrder hrefusal => ?_⟩⟩
  · by_contra hnot
    -- the filler that is not printed makes the text longer
    have hcount := List.Forall₂.length_eq h.1
    have hlower := List.Forall₂.length_eq (repaired_lowerText second)
    rw [List.length_append, hlower, List.length_append, hlong hnot, length_field (by omega)]
      at hcount
    omega
  · exact (hshort h).repaired.append (repaired_lowerText second)
  · obtain ⟨-, hwrong⟩ := hrefused.mp hrefusal
    have hupper := (hshort h).text_eq (by rw [hinOrder.number, fixCheckDigit_checkChar])
    have hdigit : field second 29 1 = [checkChar (text ++ lowerText second)] := by
      rw [hupper, lowerText_inOrder hlen.1 hlen.2.1 hinOrder,
        ← compositeText_lines third hlen.1 hlen.2.1,
        ← field_second third hlen.1 hlen.2.1 (show 29 + 1 ≤ 30 by omega)]
      exact hinOrder.composite
    apply hwrong
    rw [CompositeRight, hdigit, fixCheckDigit_checkChar]
    exact validate_eq_ok.mp (validate_checkChar _ .invalidMRZValue)

lemma july_mem : 1 ≤ 7 ∧ 7 ≤ 12 := by decide

lemma fourth_mem : 1 ≤ 4 ∧ 4 ≤ Dmrtd.daysInMonth 2025 7 := by decide

/-- The fourth of July 2025. -/
def julyFourth : NaiveDate := ⟨2025, 7, 4, july_mem, fourth_mem⟩

/-- The lines of a German card with `digit` for its composite digit. -/
def germanCard (digit : Char) : List Str :=
  ["IDDEUL01X00T471<<<<<<<<<<<<<<<".toList,
   "8308126F1108316DEU<<<<<<<<<<<".toList ++ [digit],
   "MUSTERMANN<<ERIKA<<<<<<<<<<<<<".toList]

theorem composite_printed_germanCard :
    ShortNumber "IDDEUL01X00T471<<<<<<<<<<<<<<<".toList ∧
      MrzParser.parse julyFourth (some ((germanCard '8').map some)) ≠ .err .invalidMRZValue := by
  have hpolish : polishInput (some ((germanCard '8').map some)) =
      some ["IDDEUL01X00T471<<<<<<<<<<<<<<<".toList, "8308126F1108316DEU<<<<<<<<<<<8".toList,
        "MUSTERMANN<<ERIKA<<<<<<<<<<<<<".toList] := by decide +kernel
  have hdocument : numberFields "IDDEUL01X00T471<<<<<<<<<<<<<<<".toList =
      .ok (fieldsOfLength "IDDEUL01X00T471<<<<<<<<<<<<<<<".toList 9) := by decide +kernel
  obtain ⟨string, -, -, hrefused, hiff⟩ :=
    composite_printed_iff julyFourth hpolish (by decide +kernel) hdocument
  have hshort : ShortNumber "IDDEUL01X00T471<<<<<<<<<<<<<<<".toList := by
    intro pattern n hpattern hmatch
    have hgerman : getCountryPattern "IDDEUL01X00T471<<<<<<<<<<<<<<<".toList =
        some (countryPattern "IDDEU" [exactly .alnum 9]) := by decide +kernel
    obtain rfl := Option.some.inj (hgerman.symm.trans hpattern)
    have hnine : matchLength (countryPattern "IDDEU" [exactly .alnum 9]).documentNumberPattern
        ("IDDEUL01X00T471<<<<<<<<<<<<<<<".toList.drop 5) = some 9 := by decide +kernel
    exact Or.inl (Option.some.inj (hnine.symm.trans hmatch)).ge
  exact ⟨hshort, (hiff.mpr hshort).2
    ⟨by decide +kernel, by decide +kernel, by decide +kernel, by decide +kernel⟩⟩

/-- The lines of a French card with a number of twelve characters and `digit` for its composite
digit. -/
def frenchCard (digit : Char) : List Str :=
  ["IDFRA8806923102858<<<<<<<<<<<<".toList,
   "7408122F1204159FRA<<<<<<<<<<<".toList ++ [digit],
   "MARTIN<<MAELYS<GAELLE<MARIE<<<".toList]

/-- The card is accepted with a digit that is not the one of the printed characters, and refused
with the one that is. -/
theorem composite_not_printed :
    (MrzParser.parse julyFourth (some ((frenchCard '8').map some))).isOk = true ∧
      (∃ string, finalCheckString "IDFRA8806923102858<<<<<<<<<<<<".toList
          "7408122F1204159FRA<<<<<<<<<<<8".toList = .ok string ∧
        ¬ Repaired (td1.compositeText (frenchCard '8').flatten) string) ∧
      InOrder (fieldsOfLength "IDFRA8806923102858<<<<<<<<<<<<".toList 12)
        "IDFRA8806923102858<<<<<<<<<<<<".toList "7408122F1204159FRA<<<<<<<<<<<4".toList
        "MARTIN<<MAELYS<GAELLE<MARIE<<<".toList ∧
      MrzParser.parse julyFourth (some ((frenchCard '4').map some)) = .err .invalidMRZValue := by
  refine ⟨by decide +kernel, ⟨_, rfl, fun hrepaired => ?_⟩,
    ⟨by decide +kernel, by decide +kernel, by decide +kernel, by decide +kernel⟩,
    by decide +kernel⟩
  have hlength := List.Forall₂.length_eq hrepaired
  revert hlength
  decide +kernel

end Td1

end MrzParser
