import Mathlib.Tactic.Common
import IdentityCrates.Lib.Octets

/-!
# Machine readable zone: check digits and dates

The parts of `mrz.rs` and `datetime.rs` that the basic access keys are made from: the check digit
of a string and the six-digit form of a date.
-/

namespace Dmrtd

open Octets

/-- Is `year` a leap year? -/
def isLeapYear (year : Int) : Bool := year % 4 == 0 && (year % 100 != 0 || year % 400 == 0)

/-- The number of days of a month. -/
def daysInMonth (year : Int) (month : Nat) : Nat :=
  if month = 2 then (if isLeapYear year then 29 else 28)
  else if month = 4 ∨ month = 6 ∨ month = 9 ∨ month = 11 then 30
  else 31

/-- `NaiveDate`: a day of the calendar. -/
structure NaiveDate where
  year : Int
  month : Nat
  day : Nat
  month_mem : 1 ≤ month ∧ month ≤ 12
  day_mem : 1 ≤ day ∧ day ≤ daysInMonth year month
  deriving DecidableEq

/-- `{:02}` of a number. -/
def padTwo (n : Nat) : List Char := (if n < 10 then ['0'] else []) ++ Nat.toDigits 10 n

/-- `format_yymmdd`. -/
def NaiveDate.formatYymmdd (date : NaiveDate) : List Char :=
  padTwo (date.year % 100).toNat ++ padTwo date.month ++ padTwo date.day

namespace Mrz

/-- The value of a character in a check digit. -/
def charValue (c : Char) : Option Nat :=
  if c.isDigit then some (c.toNat - '0'.toNat)
  else if c.isUpper then some (c.toNat - 'A'.toNat + 10)
  else if c = '<' ∨ c = ' ' then some 0
  else none

/-- The weight of position `i`. -/
def multiplier (i : Nat) : Nat := [7, 3, 1].getD (i % 3) 0

/-- The weighted sum over `cs`, the first of which is at position `i`. -/
def weightedSum : Nat → List Char → Option Nat
  | _, [] => some 0
  | i, c :: cs => do
    let value ← charValue c
    let rest ← weightedSum (i + 1) cs
    return value * multiplier i + rest

/-- `calculate_check_digit`. -/
def calculateCheckDigit (checkString : List Char) : Option Nat :=
  (weightedSum 0 checkString).map fun sum => sum % 10

end Mrz

end Dmrtd
