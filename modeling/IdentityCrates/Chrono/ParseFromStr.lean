import IdentityCrates.Dmrtd.Extension.DateString
import IdentityCrates.Lib.Text

/-!
# Dates from formatted text

`NaiveDate::parse_from_str` for formats made of `%Y`, `%m`, `%d` and literal characters, as the
document parsers use it.  A numeric item skips white space and then takes as many digits as there
are, up to its width; a year may carry a sign, and is then not limited in width.  Nothing may follow
the last item, and the fields must make a date.

On text where every field has its full width the parser reads the fields where they stand
(`scanField_decimal`), whatever digits follow.
-/

namespace Chrono

open Dmrtd (NaiveDate)
open Text

/-- An item of a date format. -/
inductive Item where
  | year | month | day
  | literal (c : Char)
  deriving DecidableEq, Repr

/-- `Parsed`: the fields read so far. -/
structure Parsed where
  year : Option Int
  month : Option Nat
  day : Option Nat
  deriving DecidableEq, Repr

/-- `scan::number` with at least one digit and at most `width`, if there is a limit; the number is
of type `i64`. -/
def scanNumber (width : Option Nat) (s : Str) : Option (Nat × Str) :=
  let digits := match width with
    | some w => (s.take w).takeWhile Char.isDigit
    | none => s.takeWhile Char.isDigit
  if digits.isEmpty ∨ ofDigits digits > 9223372036854775807 then none
  else some (ofDigits digits, s.drop digits.length)

/-- `set_if_consistent`. -/
def setIfConsistent {α : Type} [DecidableEq α] (old : Option α) (value : α) : Option (Option α) :=
  if old = none ∨ old = some value then some (some value) else none

/-- `Parsed::set_year`: the year is of type `i32`. -/
def Parsed.setYear (p : Parsed) (value : Int) : Option Parsed := do
  let value ← if -2147483648 ≤ value ∧ value ≤ 2147483647 then some value else none
  let year ← setIfConsistent p.year value
  return { p with year }

/-- `Parsed::set_month`. -/
def Parsed.setMonth (p : Parsed) (value : Nat) : Option Parsed := do
  let value ← if 1 ≤ value ∧ value ≤ 12 then some value else none
  let month ← setIfConsistent p.month value
  return { p with month }

/-- `Parsed::set_day`. -/
def Parsed.setDay (p : Parsed) (value : Nat) : Option Parsed := do
  let value ← if 1 ≤ value ∧ value ≤ 31 then some value else none
  let day ← setIfConsistent p.day value
  return { p with day }

/-- A year: signed and of any width, or at most four digits. -/
def scanYear (s : Str) : Option (Int × Str) :=
  match s with
  | '-' :: rest => (scanNumber none rest).map fun r => (-(r.1 : Int), r.2)
  | '+' :: rest => (scanNumber none rest).map fun r => ((r.1 : Int), r.2)
  | _ => (scanNumber (some 4) s).map fun r => ((r.1 : Int), r.2)

/-- One item of `parse_internal`. -/
def parseItem (item : Item) (p : Parsed) (s : Str) : Option (Parsed × Str) :=
  match item with
  | .literal c =>
    match s with
    | x :: rest => if x = c then some (p, rest) else none
    | [] => none
  | .year => do
    let (value, rest) ← scanYear (trimStart s)
    let p ← p.setYear value
    return (p, rest)
  | .month => do
    let (value, rest) ← scanNumber (some 2) (trimStart s)
    let p ← p.setMonth value
    return (p, rest)
  | .day => do
    let (value, rest) ← scanNumber (some 2) (trimStart s)
    let p ← p.setDay value
    return (p, rest)

/-- `parse_internal`. -/
def parseItems : List Item → Parsed → Str → Option (Parsed × Str)
  | [], p, s => some (p, s)
  | item :: items, p, s => do
    let (p, rest) ← parseItem item p s
    parseItems items p rest

/-- `Parsed::to_naive_date`, for the years a `NaiveDate` can hold. -/
def Parsed.toNaiveDate (p : Parsed) : Option NaiveDate := do
  let year ← p.year
  let month ← p.month
  let day ← p.day
  if -262143 ≤ year ∧ year ≤ 262142 then NaiveDate.fromYmdOpt year month day else none

/-- `NaiveDate::parse_from_str`. -/
def parseFromStr (s : Str) (fmt : List Item) : Option NaiveDate :=
  match parseItems fmt ⟨none, none, none⟩ s with
  | some (p, []) => p.toNaiveDate
  | _ => none

/-! ## Fields of full width -/

lemma isWhitespace_of_isDigit {c : Char} (h : c.isDigit = true) : isWhitespace c = false := by
  obtain ⟨d, hd, rfl⟩ := exists_digitChar h
  interval_cases d <;> rfl

/-- A text that starts with a digit has nothing to skip. -/
lemma trimStart_of_isDigit {c : Char} (h : c.isDigit = true) (s : Str) :
    trimStart (c :: s) = c :: s := by
  rw [trimStart, List.dropWhile_cons_of_neg (by rw [isWhitespace_of_isDigit h]; decide)]

/-- The first character of a numeral. -/
lemma exists_cons_decimal (w n : Nat) (s : Str) :
    ∃ c rest, c.isDigit = true ∧ decimal (w + 1) n ++ s = c :: rest := by
  have hall := isDigit_decimal (w + 1) n
  cases hdec : decimal (w + 1) n with
  | nil =>
    have hlen := congrArg List.length hdec
    rw [length_decimal] at hlen
    exact absurd hlen (Nat.succ_ne_zero w)
  | cons c rest =>
    rw [hdec, List.all_cons, Bool.and_eq_true] at hall
    exact ⟨c, rest ++ s, hall.1, rfl⟩

/-- A numeral of full width is read whole, whatever follows it. -/
lemma scanNumber_decimal {w n : Nat} (hw : 0 < w) (hw' : w ≤ 4) (hn : n < 10 ^ w) (s : Str) :
    scanNumber (some w) (decimal w n ++ s) = some (n, s) := by
  have htake : (decimal w n ++ s).take w = decimal w n := List.take_left' (length_decimal w n)
  have hdigits : (decimal w n).takeWhile Char.isDigit = decimal w n := by
    rw [List.takeWhile_eq_self_iff]
    exact List.all_eq_true.mp (isDigit_decimal w n)
  have hne : ¬ ((decimal w n).isEmpty = true ∨ n > 9223372036854775807) := by
    rw [List.isEmpty_iff_length_eq_zero, length_decimal]
    have hsmall : 10 ^ w ≤ 10 ^ 4 := Nat.pow_le_pow_right (by decide) hw'
    omega
  simp only [scanNumber, htake, hdigits, ofDigits_decimal_of_lt hn, if_neg hne]
  rw [length_decimal, List.drop_left' (length_decimal w n)]

lemma trimStart_decimal (w n : Nat) (s : Str) :
    trimStart (decimal (w + 1) n ++ s) = decimal (w + 1) n ++ s := by
  obtain ⟨c, rest, hc, heq⟩ := exists_cons_decimal w n s
  rw [heq, trimStart_of_isDigit hc]

/-- A year of four digits is read whole: a digit is no sign. -/
lemma scanYear_decimal {n : Nat} (hn : n < 10000) (s : Str) :
    scanYear (decimal 4 n ++ s) = some ((n : Int), s) := by
  obtain ⟨c, rest, hc, heq⟩ := exists_cons_decimal 3 n s
  have hscan := scanNumber_decimal (show 0 < 4 by decide) le_rfl hn s
  rw [heq] at hscan ⊢
  unfold scanYear
  split
  · rename_i h
    obtain rfl := (List.cons.inj h).1
    exact absurd hc (by decide)
  · rename_i h
    obtain rfl := (List.cons.inj h).1
    exact absurd hc (by decide)
  · rw [hscan]
    rfl

/-- The items of two digits. -/
lemma parseItem_month {n : Nat} (hn : 1 ≤ n ∧ n ≤ 12) {p : Parsed} (hp : p.month = none) (s : Str) :
    parseItem .month p (decimal 2 n ++ s) = some ({ p with month := some n }, s) := by
  simp only [parseItem, trimStart_decimal 1 n s,
    scanNumber_decimal (show 0 < 2 by decide) (by decide) (show n < 10 ^ 2 by omega) s]
  simp [Parsed.setMonth, setIfConsistent, hn, hp]

lemma parseItem_day {n : Nat} (hn : 1 ≤ n ∧ n ≤ 31) {p : Parsed} (hp : p.day = none) (s : Str) :
    parseItem .day p (decimal 2 n ++ s) = some ({ p with day := some n }, s) := by
  simp only [parseItem, trimStart_decimal 1 n s,
    scanNumber_decimal (show 0 < 2 by decide) (by decide) (show n < 10 ^ 2 by omega) s]
  simp [Parsed.setDay, setIfConsistent, hn, hp]

lemma parseItem_year {n : Nat} (hn : n < 10000) {p : Parsed} (hp : p.year = none) (s : Str) :
    parseItem .year p (decimal 4 n ++ s) = some ({ p with year := some (n : Int) }, s) := by
  have hrange : -2147483648 ≤ (n : Int) ∧ (n : Int) ≤ 2147483647 := by omega
  have hset : p.setYear (n : Int) = some { p with year := some (n : Int) } := by
    unfold Parsed.setYear
    rw [if_pos hrange]
    simp [setIfConsistent, hp]
  simp only [parseItem, trimStart_decimal 3 n s, scanYear_decimal hn s]
  rw [Option.bind_eq_bind, Option.bind_some, hset]
  rfl

lemma parseItem_literal (c : Char) (p : Parsed) (s : Str) :
    parseItem (.literal c) p (c :: s) = some (p, s) := by
  simp [parseItem]

lemma parseItems_cons {item : Item} {items : List Item} {p p' : Parsed} {s rest : Str}
    (h : parseItem item p s = some (p', rest)) :
    parseItems (item :: items) p s = parseItems items p' rest := by
  rw [parseItems, h]
  rfl

/-- No month has more than 31 days. -/
lemma day_mem_of_date (date : NaiveDate) : 1 ≤ date.day ∧ date.day ≤ 31 := by
  have hday := date.day_mem
  unfold Dmrtd.daysInMonth at hday
  split at hday
  · split at hday <;> omega
  · split at hday <;> omega

/-- The fields of a date make the date again. -/
lemma toNaiveDate_of_date {date : NaiveDate} (hyear : 0 ≤ date.year ∧ date.year < 10000) :
    (⟨some date.year, some date.month, some date.day⟩ : Parsed).toNaiveDate = some date := by
  have hrange : -262143 ≤ date.year ∧ date.year ≤ 262142 := by omega
  have hdate : NaiveDate.fromYmdOpt date.year date.month date.day = some date :=
    NaiveDate.fromYmdOpt_eq_some.mpr ⟨rfl, rfl, rfl⟩
  simp [Parsed.toNaiveDate, hrange, hdate]

section FullWidth

variable {date : NaiveDate} (hyear : 0 ≤ date.year ∧ date.year < 10000)

include hyear

/-- The year of a date in four digits. -/
lemma parseItem_yearOf {p : Parsed} (hp : p.year = none) (s : Str) :
    parseItem .year p (decimal 4 date.year.toNat ++ s) =
      some ({ p with year := some date.year }, s) := by
  have hcast : (date.year.toNat : Int) = date.year := Int.toNat_of_nonneg hyear.1
  rw [parseItem_year (by omega) hp, hcast]

/-- A date as day, month and year with a separator is read back. -/
lemma parseFromStr_dmy (sep : Char) :
    parseFromStr (decimal 2 date.day ++ sep :: (decimal 2 date.month ++ sep ::
      decimal 4 date.year.toNat)) [.day, .literal sep, .month, .literal sep, .year] =
      some date := by
  have hday := parseItem_day (day_mem_of_date date) (p := ⟨none, none, none⟩) rfl
    (sep :: (decimal 2 date.month ++ sep :: decimal 4 date.year.toNat))
  have hitems : parseItems [.day, .literal sep, .month, .literal sep, .year] _ _ = _ :=
    parseItems_cons hday
  rw [parseItems_cons (parseItem_literal sep _ _),
    parseItems_cons (parseItem_month date.month_mem rfl _),
    parseItems_cons (parseItem_literal sep _ _)] at hitems
  have hlast := parseItem_yearOf hyear (p := ⟨none, some date.month, some date.day⟩) rfl []
  rw [List.append_nil] at hlast
  rw [parseItems_cons hlast] at hitems
  rw [parseFromStr, hitems]
  exact toNaiveDate_of_date hyear

/-- A date as month, day and year without separators is read back. -/
lemma parseFromStr_mdy :
    parseFromStr (decimal 2 date.month ++ (decimal 2 date.day ++ decimal 4 date.year.toNat))
      [.month, .day, .year] = some date := by
  have hlast := parseItem_yearOf hyear (p := ⟨none, some date.month, some date.day⟩) rfl []
  rw [List.append_nil] at hlast
  rw [parseFromStr, parseItems_cons (parseItem_month date.month_mem rfl _),
    parseItems_cons (parseItem_day (day_mem_of_date date) rfl _), parseItems_cons hlast]
  exact toNaiveDate_of_date hyear

/-- A date as year, month and day without separators is read back. -/
lemma parseFromStr_ymd :
    parseFromStr (decimal 4 date.year.toNat ++ (decimal 2 date.month ++ decimal 2 date.day))
      [.year, .month, .day] = some date := by
  have hlast := parseItem_day (day_mem_of_date date)
    (p := ⟨some date.year, some date.month, none⟩) rfl []
  rw [List.append_nil] at hlast
  rw [parseFromStr, parseItems_cons (parseItem_yearOf hyear rfl _),
    parseItems_cons (parseItem_month date.month_mem rfl _), parseItems_cons hlast]
  exact toNaiveDate_of_date hyear

end FullWidth

/-- A text that starts with the digits of a century does not start with a month. -/
lemma parseFromStr_century {n : Nat} (hn : 1300 ≤ n ∧ n < 10000) (s : Str) (items : List Item) :
    parseFromStr (decimal 4 n ++ s) (.month :: items) = none := by
  have hsplit : decimal 4 n ++ s = decimal 2 (n / 100) ++ (decimal 2 n ++ s) := by
    rw [show 4 = 2 + 2 from rfl, decimal_add, List.append_assoc]
    rfl
  have hmonth : parseItem .month ⟨none, none, none⟩ (decimal 4 n ++ s) = none := by
    rw [hsplit]
    simp only [parseItem, trimStart_decimal 1,
      scanNumber_decimal (show 0 < 2 by decide) (by decide) (show n / 100 < 10 ^ 2 by omega)]
    rw [Option.bind_eq_bind, Option.bind_some, Parsed.setMonth, if_neg (by omega)]
    rfl
  rw [parseFromStr, parseItems, hmonth]
  rfl

end Chrono
