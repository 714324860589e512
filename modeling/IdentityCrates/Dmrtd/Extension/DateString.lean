import IdentityCrates.Dmrtd.Lds.Mrz
import IdentityCrates.Lib.Text

/-!
# Dates of six and eight digits

`parse_date_yymmdd_with_ref` and `parse_date_with_ref` of `string.rs`, with the part of the calendar
they rest on.  The date of today, which the program asks the clock for, is the parameter `reference`.

A date of birth is read as the latest year that does not put it after the reference; a date of
expiry is given twenty years and five months on top of it (`threshold`).
-/

namespace Dmrtd

open Rust Text

/-! ## Days of the calendar -/

namespace NaiveDate

/-- `NaiveDate::from_ymd_opt`, for the years the type can hold. -/
def fromYmdOpt (year : Int) (month day : Nat) : Option NaiveDate :=
  if h : (1 ≤ month ∧ month ≤ 12) ∧ 1 ≤ day ∧ day ≤ daysInMonth year month then
    some ⟨year, month, day, h.1, h.2⟩
  else none

lemma fromYmdOpt_eq_some {year : Int} {month day : Nat} {date : NaiveDate} :
    fromYmdOpt year month day = some date ↔
      date.year = year ∧ date.month = month ∧ date.day = day := by
  unfold fromYmdOpt
  constructor
  · intro h
    split at h
    · rw [Option.some.injEq] at h
      subst h
      exact ⟨rfl, rfl, rfl⟩
    · exact absurd h (by simp)
  · rintro ⟨rfl, rfl, rfl⟩
    rw [dif_pos ⟨date.month_mem, date.day_mem⟩]

lemma isSome_fromYmdOpt {year : Int} {month day : Nat} :
    (fromYmdOpt year month day).isSome = true ↔
      (1 ≤ month ∧ month ≤ 12) ∧ 1 ≤ day ∧ day ≤ daysInMonth year month := by
  unfold fromYmdOpt
  split <;> simp_all

end NaiveDate

/-- A day of the twentieth century is one a hundred years later. -/
lemma daysInMonth_le {yy : Nat} (hyy : yy < 100) (month : Nat) :
    daysInMonth (1900 + yy) month ≤ daysInMonth (2000 + yy) month := by
  have hleap : isLeapYear (1900 + yy) = true → isLeapYear (2000 + yy) = true := by
    simp only [isLeapYear, Bool.and_eq_true, Bool.or_eq_true, bne_iff_ne, beq_iff_eq]
    omega
  unfold daysInMonth
  cases hold : isLeapYear (1900 + yy) with
  | false =>
    split
    · simp
      split <;> simp
    · simp
  | true => simp [hleap hold]

/-- And the other way round, but for the years 1900 and 2000. -/
lemma daysInMonth_eq {yy : Nat} (hyy : yy < 100) (hne : yy ≠ 0) (month : Nat) :
    daysInMonth (1900 + yy) month = daysInMonth (2000 + yy) month := by
  have hleap : isLeapYear (1900 + yy) = isLeapYear (2000 + yy) := by
    rw [Bool.eq_iff_iff]
    simp only [isLeapYear, Bool.and_eq_true, Bool.or_eq_true, bne_iff_ne, beq_iff_eq]
    omega
  rw [daysInMonth, daysInMonth, hleap]

/-- Is `(year, month, day)` after `(year', month', day')` in the order of tuples? -/
def isAfter (year : Int) (month day : Nat) (limit : Int × Nat × Nat) : Bool :=
  limit.1 < year || (limit.1 == year &&
    (limit.2.1 < month || (limit.2.1 == month && limit.2.2 < day)))

/-! ## Parsing -/

/-- `StringExtError::DateParse`, the error of the date functions. -/
structure DateParseError where
  message : String
  deriving DecidableEq, Repr

/-- `Display` of the error. -/
def DateParseError.display (e : DateParseError) : String := "Invalid date string: " ++ e.message

/-- The date a two-digit year is disambiguated against: `(max_year, max_month, max_day)`. -/
def threshold (futureDate : Bool) (reference : NaiveDate) : Int × Nat × Nat :=
  if futureDate then
    -- months counted from zero, five of them on
    let futureMonths := (reference.month - 1) + 5
    (reference.year + 20 + (futureMonths / 12 : Nat), futureMonths % 12 + 1, reference.day)
  else (reference.year, reference.month, reference.day)

/-- The full year of a date whose two-digit year is `yy`. -/
def fullYear (yy month day : Nat) (futureDate : Bool) (reference : NaiveDate) : Int :=
  if isAfter (yy + 2000) month day (threshold futureDate reference) then yy + 1900 else yy + 2000

/-- `parse_date_yymmdd_with_ref`. -/
def parseDateYymmddWithRef (s : Str) (futureDate : Bool) (reference : NaiveDate) :
    Outcome DateParseError NaiveDate := do
  -- anything that is not a digit is dropped before the digits are counted
  let compact := s.filter Char.isDigit
  if compact.length ≠ 6 then
    .err ⟨"Invalid length of compact date string: expected exactly 6 digits, got " ++
      toString compact.length⟩
  else
    let yy := ofDigits (field compact 0 2)
    let m := ofDigits (field compact 2 2)
    let d := ofDigits (field compact 4 2)
    let year := fullYear yy m d futureDate reference
    match NaiveDate.fromYmdOpt year m d with
    | some date => .ok date
    | none => .err ⟨"Invalid date: " ++ String.ofList (padZero 4 year.toNat ++ '-' :: padZero 2 m ++
        '-' :: padZero 2 d)⟩

/-- `parse_date_with_ref`: six digits with a year of two, or eight with a year of four. -/
def parseDateWithRef (s : Str) (futureDate : Bool) (reference : NaiveDate) :
    Outcome DateParseError NaiveDate :=
  let raw := trim s
  if raw.isEmpty then .err ⟨"Empty date string"⟩
  else
    let cleaned := raw.filter Char.isDigit
    if cleaned.length = 6 then parseDateYymmddWithRef cleaned futureDate reference
    else if cleaned.length = 8 then
      let year := ofDigits (field cleaned 0 4)
      let month := ofDigits (field cleaned 4 2)
      let day := ofDigits (field cleaned 6 2)
      match NaiveDate.fromYmdOpt year month day with
      | some date => .ok date
      | none => .err ⟨"Invalid date: " ++ String.ofList (padZero 4 year ++ '-' :: padZero 2 month ++
          '-' :: padZero 2 day)⟩
    else .err ⟨"Unsupported date string length: " ++ toString cleaned.length ++ " (from '" ++
      String.ofList raw ++ "')"⟩

lemma parseDateYymmddWithRef_eq_ok {s : Str} {futureDate : Bool} {reference date : NaiveDate} :
    parseDateYymmddWithRef s futureDate reference = .ok date ↔
      (s.filter Char.isDigit).length = 6 ∧
        NaiveDate.fromYmdOpt
          (fullYear (ofDigits (field (s.filter Char.isDigit) 0 2))
            (ofDigits (field (s.filter Char.isDigit) 2 2))
            (ofDigits (field (s.filter Char.isDigit) 4 2)) futureDate reference)
          (ofDigits (field (s.filter Char.isDigit) 2 2))
          (ofDigits (field (s.filter Char.isDigit) 4 2)) = some date := by
  unfold parseDateYymmddWithRef
  by_cases hlen : (s.filter Char.isDigit).length = 6
  · simp only [hlen, ne_eq, not_true_eq_false, if_false, true_and]
    split <;> simp_all
  · simp [hlen]

/-- Fillers at the end of a date field make no difference. -/
lemma parseDateYymmddWithRef_trimEndMatches (s : Str) (futureDate : Bool) (reference : NaiveDate) :
    parseDateYymmddWithRef (trimEndMatches '<' s) futureDate reference =
      parseDateYymmddWithRef s futureDate reference := by
  have hsplit : trimEndMatches '<' s ++ s.rtakeWhile (· == '<') = s :=
    List.rdropWhile_append_rtakeWhile
  have hnone : (s.rtakeWhile (· == '<')).filter Char.isDigit = [] := by
    rw [List.filter_eq_nil_iff]
    intro c hc
    obtain rfl : c = '<' := by simpa using List.mem_rtakeWhile_imp hc
    decide
  have hfilter : (trimEndMatches '<' s).filter Char.isDigit = s.filter Char.isDigit := by
    calc (trimEndMatches '<' s).filter Char.isDigit
        = (trimEndMatches '<' s ++ s.rtakeWhile (· == '<')).filter Char.isDigit := by
          rw [List.filter_append, hnone, List.append_nil]
      _ = s.filter Char.isDigit := by rw [hsplit]
  unfold parseDateYymmddWithRef
  rw [hfilter]

lemma fullYear_mod (yy month day : Nat) (futureDate : Bool) (reference : NaiveDate) (h : yy < 100) :
    fullYear yy month day futureDate reference % 100 = yy := by
  unfold fullYear
  split <;> omega

lemma padTwo_pair {a b : Nat} (ha : a < 10) (hb : b < 10) :
    padTwo (a * 10 + b) = [a.digitChar, b.digitChar] := by
  have hall : ∀ a < 10, ∀ b < 10, padTwo (a * 10 + b) = [a.digitChar, b.digitChar] := by decide
  exact hall a ha b hb

/-- A parsed date is written with the digits it was read from. -/
lemma formatYymmdd_of_parse {s : Str} {futureDate : Bool} {reference date : NaiveDate}
    (h : parseDateYymmddWithRef s futureDate reference = .ok date) :
    date.formatYymmdd = s.filter Char.isDigit := by
  obtain ⟨hlen, hdate⟩ := parseDateYymmddWithRef_eq_ok.mp h
  obtain ⟨a₁, a₂, b₁, b₂, c₁, c₂, ⟨ha₁, ha₂⟩, ⟨hb₁, hb₂⟩, ⟨hc₁, hc₂⟩, hs⟩ :=
    exists_three_pairs hlen fun c hc => (List.mem_filter.mp hc).2
  rw [hs] at hdate ⊢
  simp only [field, List.drop_succ_cons, List.drop_zero, List.take_succ_cons, List.take_zero,
    ofDigits_pair ha₁ ha₂, ofDigits_pair hb₁ hb₂, ofDigits_pair hc₁ hc₂] at hdate
  obtain ⟨hyear, hmonth, hday⟩ := NaiveDate.fromYmdOpt_eq_some.mp hdate
  have hyy : (date.year % 100).toNat = a₁ * 10 + a₂ := by
    rw [hyear, fullYear_mod _ _ _ _ _ (by omega)]
    rfl
  rw [NaiveDate.formatYymmdd, hyy, hmonth, hday, padTwo_pair ha₁ ha₂, padTwo_pair hb₁ hb₂,
    padTwo_pair hc₁ hc₂]
  rfl

end Dmrtd
