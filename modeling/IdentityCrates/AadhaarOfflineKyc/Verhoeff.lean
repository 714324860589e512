import IdentityCrates.Lib.Slice
import IdentityCrates.Lib.Utf8

/-!
# The syntax of Aadhaar numbers

`verhoeff.rs`: twelve digits, of which the first is 2 to 9 and the last a Verhoeff check digit.  The
two tables are those of the source; a lookup outside them would panic.
-/

namespace AadhaarOfflineKyc

namespace Verhoeff

open Octets Rust Text

/-- `D`: the multiplication table. -/
def d : List (List UInt8) :=
  [[0, 1, 2, 3, 4, 5, 6, 7, 8, 9],
   [1, 2, 3, 4, 0, 6, 7, 8, 9, 5],
   [2, 3, 4, 0, 1, 7, 8, 9, 5, 6],
   [3, 4, 0, 1, 2, 8, 9, 5, 6, 7],
   [4, 0, 1, 2, 3, 9, 5, 6, 7, 8],
   [5, 9, 8, 7, 6, 0, 4, 3, 2, 1],
   [6, 5, 9, 8, 7, 1, 0, 4, 3, 2],
   [7, 6, 5, 9, 8, 2, 1, 0, 4, 3],
   [8, 7, 6, 5, 9, 3, 2, 1, 0, 4],
   [9, 8, 7, 6, 5, 4, 3, 2, 1, 0]]

/-- `P`: the permutations of the digits, one for each `position % 8`. -/
def p : List (List UInt8) :=
  [[0, 1, 2, 3, 4, 5, 6, 7, 8, 9],
   [1, 5, 7, 6, 2, 8, 3, 0, 9, 4],
   [5, 8, 0, 3, 7, 9, 6, 1, 4, 2],
   [8, 9, 1, 6, 0, 4, 3, 5, 2, 7],
   [9, 4, 5, 3, 1, 2, 6, 8, 7, 0],
   [4, 2, 8, 6, 5, 7, 3, 9, 0, 1],
   [2, 7, 9, 3, 8, 0, 6, 4, 1, 5],
   [7, 0, 4, 6, 9, 1, 3, 2, 5, 8]]

/-- One turn of the loop: the checksum behind the byte at position `i`. -/
def checksumStep (c i : Nat) (b : UInt8) : Outcome Empty Nat := do
  let digit ← checkedSub b.toNat 0x30
  let permuted ← index (← index p (i % 8)) digit
  let next ← index (← index d c) permuted.toNat
  return next.toNat

/-- The loop, over the bytes from position `i` on. -/
def checksumFrom (c i : Nat) : Bytes → Outcome Empty Nat
  | [] => .ok c
  | b :: bytes => do
    let c ← checksumStep c i b
    checksumFrom c (i + 1) bytes

/-- `validate_aadhaar_syntax`. -/
def validateAadhaarSyntax (aadhaar : Str) : Outcome Empty Bool := do
  let bytes := Utf8.encode aadhaar
  if bytes.length ≠ 12 then return false
  let first ← index bytes 0
  if ¬ (0x32 ≤ first ∧ first ≤ 0x39) then return false
  if ¬ bytes.all Utf8.isAsciiDigit then return false
  -- from the least to the most significant digit
  let c ← checksumFrom 0 0 bytes.reverse
  return c == 0

end Verhoeff

end AadhaarOfflineKyc
