import IdentityCrates.MrzParser.Parser

/-!
# The parser never panics

The formats cut their lines at fixed byte positions, and a cut inside a character or beyond the line
would abort the program.  What stands in the way is `polish_input`: behind it every line is made of
capital letters, digits and fillers (`polishInput_spec`), so that a byte is a character, and the
formats have checked that there are as many lines of as many bytes as they cut from.

The rest is dates.  Eighteen years before a day there is the same day or, for a 29th of February,
the day before it (`subtractYears_ne_panic`), which is the one place where the code unwraps a date.
-/

namespace MrzParser

open Rust Text

open Dmrtd (NaiveDate)

/-! ## Checks and dates -/

lemma validateDigit_ne_panic (cd value : Str) (e : MRZError) :
    validateDigit cd value e ≠ .panic := by
  unfold validateDigit
  split <;> simp

lemma parseDate_ne_panic (input : Str) (milestoneYear : Int) :
    parseDate input milestoneYear ≠ .panic := by
  unfold parseDate
  dsimp only
  split
  · simp
  · refine Outcome.bind_ne_panic (Outcome.ofOption_ne_panic _ _) fun _ _ => ?_
    refine Outcome.bind_ne_panic (Outcome.ofOption_ne_panic _ _) fun _ _ => ?_
    refine Outcome.bind_ne_panic (Outcome.ofOption_ne_panic _ _) fun _ _ => ?_
    exact Outcome.ofOption_ne_panic _ _

namespace Td2

/-- The day before exists where the day itself does not. -/
lemma subtractYears_ne_panic (date : NaiveDate) (years : Int) :
    subtractYears date years ≠ .panic := by
  unfold subtractYears
  obtain ⟨hmonth, hday⟩ := And.intro date.month_mem date.day_mem
  dsimp only
  cases hsame : NaiveDate.fromYmdOpt (date.year - years) date.month date.day with
  | some d => simp
  | none =>
    have hnot : ¬(1 ≤ date.day ∧ date.day ≤ Dmrtd.daysInMonth (date.year - years) date.month) := by
      intro hin
      have hsome := NaiveDate.isSome_fromYmdOpt.mpr ⟨hmonth, hin⟩
      rw [hsame] at hsome
      exact absurd hsome (by simp)
    -- only February has years of different lengths, by one day
    have hlen : date.day - 1 ≤ Dmrtd.daysInMonth (date.year - years) date.month ∧
        1 ≤ date.day - 1 := by
      unfold Dmrtd.daysInMonth at hday hnot ⊢
      by_cases hfeb : date.month = 2
      · simp only [hfeb, if_true] at hday hnot ⊢
        split at hday <;> split at hnot <;> simp_all <;> omega
      · simp only [hfeb, if_false] at hday hnot
        exact absurd hday hnot
    have hsome := NaiveDate.isSome_fromYmdOpt.mpr ⟨hmonth, hlen.2, hlen.1⟩
    obtain ⟨d, hd⟩ := Option.isSome_iff_exists.mp hsome
    rw [hd]
    simp

lemma frenchIdValidityYears_ne_panic (issueDate birthDate : NaiveDate) :
    frenchIdValidityYears issueDate birthDate ≠ .panic := by
  unfold frenchIdValidityYears
  have hextension : (NaiveDate.fromYmdOpt 2004 1 1).isSome = true := by decide
  obtain ⟨extension, hsome⟩ := Option.isSome_iff_exists.mp hextension
  rw [hsome, Outcome.unwrap_some, Outcome.ok_bind]
  split
  · simp
  · refine Outcome.bind_ne_panic (subtractYears_ne_panic _ _) fun _ _ => ?_
    simp

lemma frenchDates_ne_panic (today : NaiveDate) (birth issue : Str) :
    frenchDates today birth issue ≠ .panic := by
  unfold frenchDates
  refine Outcome.bind_ne_panic (parseDate_ne_panic _ _) fun _ _ => ?_
  refine Outcome.bind_ne_panic (parseDate_ne_panic _ _) fun _ _ => ?_
  refine Outcome.bind_ne_panic (frenchIdValidityYears_ne_panic _ _) fun _ _ => ?_
  refine Outcome.bind_ne_panic (Outcome.ofOption_ne_panic _ _) fun _ _ => ?_
  simp

section Lines

variable {firstLine secondLine : Str} (today : NaiveDate) (hfirst : IsAscii firstLine)
  (hsecond : IsAscii secondLine) (lfirst : firstLine.length = 36) (lsecond : secondLine.length = 36)

include hfirst hsecond lfirst lsecond

lemma parseLines_ne_panic : parseLines today firstLine secondLine ≠ .panic := by
  rw [parseLines_eq today hfirst hsecond lfirst lsecond]
  refine Outcome.bind_ne_panic (validateDigit_ne_panic _ _ _) fun _ _ => ?_
  refine Outcome.bind_ne_panic (validateDigit_ne_panic _ _ _) fun _ _ => ?_
  refine Outcome.bind_ne_panic (validateDigit_ne_panic _ _ _) fun _ _ => ?_
  refine Outcome.bind_ne_panic ?_ fun _ _ => ?_
  · unfold validateRest
    split
    · simp
    · exact validateDigit_ne_panic _ _ _
  refine Outcome.bind_ne_panic (parseDate_ne_panic _ _) fun _ _ => ?_
  refine Outcome.bind_ne_panic (parseDate_ne_panic _ _) fun _ _ => ?_
  simp

lemma parseFrenchId_ne_panic : parseFrenchId today firstLine secondLine ≠ .panic := by
  rw [parseFrenchId_eq today hfirst hsecond lfirst lsecond]
  refine Outcome.bind_ne_panic (validateDigit_ne_panic _ _ _) fun _ _ => ?_
  refine Outcome.bind_ne_panic (validateDigit_ne_panic _ _ _) fun _ _ => ?_
  refine Outcome.bind_ne_panic (validateDigit_ne_panic _ _ _) fun _ _ => ?_
  refine Outcome.bind_ne_panic (frenchDates_ne_panic _ _ _) fun _ _ => ?_
  simp

end Lines

lemma parse_ne_panic (today : NaiveDate) {lines : List Str}
    (hascii : ∀ line ∈ lines, IsAscii line) : parse today lines ≠ .panic := by
  unfold parse
  split
  · rename_i hvalid
    obtain ⟨hcount, hlen⟩ := shape_of_isValidInput hascii hvalid
    obtain ⟨first, second, rfl⟩ := List.length_eq_two.mp hcount
    have hfirst := hascii first (by simp)
    have hsecond := hascii second (by simp)
    have lfirst := hlen first (by simp)
    have lsecond := hlen second (by simp)
    show (if isFrenchId first then _ else _) ≠ _
    split
    · exact parseFrenchId_ne_panic today hfirst hsecond lfirst lsecond
    · exact parseLines_ne_panic today hfirst hsecond lfirst lsecond
  · simp

end Td2

namespace Td3

lemma validateOptionalData_ne_panic (cd optionalData : Str) :
    validateOptionalData cd optionalData ≠ .panic := by
  unfold validateOptionalData
  dsimp only
  split <;> simp

lemma parseLines_ne_panic (today : NaiveDate) {firstLine secondLine : Str}
    (hfirst : IsAscii firstLine) (hsecond : IsAscii secondLine) (lfirst : firstLine.length = 44)
    (lsecond : secondLine.length = 44) : parseLines today firstLine secondLine ≠ .panic := by
  rw [parseLines_eq today hfirst hsecond lfirst lsecond]
  refine Outcome.bind_ne_panic (validateDigit_ne_panic _ _ _) fun _ _ => ?_
  refine Outcome.bind_ne_panic (validateDigit_ne_panic _ _ _) fun _ _ => ?_
  refine Outcome.bind_ne_panic (validateDigit_ne_panic _ _ _) fun _ _ => ?_
  refine Outcome.bind_ne_panic ?_ fun _ _ => ?_
  · unfold validateRest
    split
    · simp
    · exact Outcome.bind_ne_panic (validateOptionalData_ne_panic _ _) fun _ _ =>
        validateDigit_ne_panic _ _ _
  refine Outcome.bind_ne_panic (parseDate_ne_panic _ _) fun _ _ => ?_
  refine Outcome.bind_ne_panic (parseDate_ne_panic _ _) fun _ _ => ?_
  simp

lemma parse_ne_panic (today : NaiveDate) {lines : List Str}
    (hascii : ∀ line ∈ lines, IsAscii line) : parse today lines ≠ .panic := by
  unfold parse
  split
  · rename_i hvalid
    obtain ⟨hcount, hlen⟩ := shape_of_isValidInput hascii hvalid
    obtain ⟨first, second, rfl⟩ := List.length_eq_two.mp hcount
    exact parseLines_ne_panic today (hascii first (by simp)) (hascii second (by simp))
      (hlen first (by simp)) (hlen second (by simp))
  · simp

end Td3

namespace Td1

lemma validate_ne_panic (cd value : Str) (e : MRZError) : validate cd value e ≠ .panic := by
  unfold validate
  split <;> simp

/-- The fields of a number are found or refused, and a long number has the nine characters that the
composite puts a filler behind. -/
lemma numberFields_spec {firstLine : Str} (hfirst : IsAscii firstLine)
    (lfirst : firstLine.length = 30) :
    numberFields firstLine ≠ .panic ∧ ∀ d, numberFields firstLine = .ok d →
      IsAscii d.number ∧ (d.isLong = true → 9 ≤ d.number.length) := by
  unfold numberFields
  cases hpattern : getCountryPattern firstLine with
  | some pattern =>
    rcases countryFields_cases (List.mem_of_find?_eq_some hpattern) hfirst lfirst with
      herr | ⟨k, hk, -, hok⟩
    · simp [herr]
    · simp only [hok, ne_eq, reduceCtorEq, not_false_eq_true, true_and, Outcome.ok.injEq]
      rintro d rfl
      refine ⟨hfirst.field 5 k, fun hlong => ?_⟩
      rw [fieldsOfLength, decide_eq_true_eq] at hlong
      show 9 ≤ (field firstLine 5 k).length
      rw [length_field (by omega)]
      omega
  | none =>
    have hprincipal : (field firstLine 5 9).length = 9 := length_field (by omega)
    simp only [defaultFields_eq hfirst lfirst]
    split
    · split
      · simp
      · simp only [ne_eq, reduceCtorEq, not_false_eq_true, true_and, Outcome.ok.injEq]
        rintro d rfl
        refine ⟨(hfirst.field 5 9).append fun c hc => ?_, fun _ => ?_⟩
        · exact hfirst.field 15 13 c ((List.rdropWhile_prefix (p := (· == '<')) _).subset
            (List.dropLast_subset _ hc))
        · show 9 ≤ (field firstLine 5 9 ++ _).length
          rw [List.length_append, hprincipal]
          omega
    · simp only [ne_eq, reduceCtorEq, not_false_eq_true, true_and, Outcome.ok.injEq]
      rintro d rfl
      exact ⟨hfirst.field 5 9, fun h => absurd h (by simp)⟩

lemma numberForCheckString_ne_panic {number : Str} {isLong : Bool} (hascii : IsAscii number)
    (hlong : isLong = true → 9 ≤ number.length) :
    numberForCheckString number isLong ≠ .panic := by
  unfold numberForCheckString
  cases isLong with
  | false => simp
  | true =>
    have hnine := hlong rfl
    rw [if_pos rfl, Text.slice_eq hascii (by omega) hnine, Text.sliceFrom_eq hascii hnine]
    simp

lemma parseLines_ne_panic (today : NaiveDate) {firstLine secondLine thirdLine : Str}
    (hfirst : IsAscii firstLine) (hsecond : IsAscii secondLine) (hthird : IsAscii thirdLine)
    (lfirst : firstLine.length = 30) (lsecond : secondLine.length = 30)
    (lthird : thirdLine.length = 30) :
    parseLines today firstLine secondLine thirdLine ≠ .panic := by
  obtain ⟨hfields, hspec⟩ := numberFields_spec hfirst lfirst
  rw [parseLines_eq today hfirst hsecond hthird lfirst lsecond lthird]
  refine Outcome.bind_ne_panic hfields fun d hd => ?_
  obtain ⟨hascii, hlong⟩ := hspec d hd
  refine Outcome.bind_ne_panic (validate_ne_panic _ _ _) fun _ _ => ?_
  refine Outcome.bind_ne_panic (validate_ne_panic _ _ _) fun _ _ => ?_
  refine Outcome.bind_ne_panic (validate_ne_panic _ _ _) fun _ _ => ?_
  refine Outcome.bind_ne_panic (numberForCheckString_ne_panic hascii hlong) fun _ _ => ?_
  refine Outcome.bind_ne_panic (validate_ne_panic _ _ _) fun _ _ => ?_
  refine Outcome.bind_ne_panic (parseDate_ne_panic _ _) fun _ _ => ?_
  refine Outcome.bind_ne_panic (parseDate_ne_panic _ _) fun _ _ => ?_
  simp

lemma parse_ne_panic (today : NaiveDate) {lines : List Str}
    (hascii : ∀ line ∈ lines, IsAscii line) : parse today lines ≠ .panic := by
  unfold parse
  split
  · rename_i hvalid
    obtain ⟨hcount, hlen⟩ := shape_of_isValidInput hascii hvalid
    obtain ⟨first, second, third, rfl⟩ := List.length_eq_three.mp hcount
    exact parseLines_ne_panic today (hascii first (by simp)) (hascii second (by simp))
      (hascii third (by simp)) (hlen first (by simp)) (hlen second (by simp)) (hlen third (by simp))
  · simp

end Td1

/-! ## Every input -/

/-- **No input makes the parser panic**: whatever lines there are, of whatever characters and in
whatever number, `parse` returns a result or an error and `try_parse` a result or none. -/
theorem parse_never_panics (today : NaiveDate) (input : Option (List (Option Str))) :
    parse today input ≠ .panic ∧ tryParse today input ≠ .panic := by
  have hparse : parse today input ≠ .panic := by
    unfold parse
    refine Outcome.bind_ne_panic (Outcome.ofOption_ne_panic _ _) fun lines hlines => ?_
    obtain ⟨-, hchars⟩ := polishInput_spec (Outcome.ofOption_eq_ok.mp hlines)
    have hascii : ∀ line ∈ lines, IsAscii line := fun line hline =>
      Icao.isAscii_of_isMrzChar (hchars line hline)
    split
    · exact Td1.parse_ne_panic today hascii
    · split
      · exact Td2.parse_ne_panic today hascii
      · split
        · exact Td3.parse_ne_panic today hascii
        · simp
  refine ⟨hparse, ?_⟩
  unfold tryParse
  cases hresult : parse today input with
  | panic => exact absurd hresult hparse
  | _ => simp

end MrzParser
