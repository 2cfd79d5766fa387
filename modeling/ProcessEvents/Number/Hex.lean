/-
  This file defines hexadecimal digits. They are written in
  either case, and read in both.

  Key definitions include:
    * `Hex.digit`, `Hex.upperDigit`
    * `Hex.digits`
    * `Hex.value?`
    * `Hex.number?`

  Key theorems include:
    * `Hex.value?_digit`, `Hex.value?_upperDigit`
-/

namespace ProcessEvents

namespace Hex

------------------------------------------------------------
-- Writing
------------------------------------------------------------

/- The lower case digit of a number below sixteen. -/
def digit
    (n : Nat) : Char :=
  if n < 10 then Char.ofNat ('0'.toNat + n)
  else Char.ofNat ('a'.toNat + (n - 10))

/- The upper case digit of a number below sixteen. -/
def upperDigit
    (n : Nat) : Char :=
  if n < 10 then Char.ofNat ('0'.toNat + n)
  else Char.ofNat ('A'.toNat + (n - 10))

/- The lowest `count` digits of a number, highest first. -/
def digits
    (n : Nat) : Nat → List Char
  | 0 => []
  | count + 1 => digits (n / 16) count ++ [digit (n % 16)]

/- The digits of a number without zeros in front. -/
def shortDigits
    (n : Nat) : List Char :=
  Nat.toDigits 16 n

------------------------------------------------------------
-- Reading
------------------------------------------------------------

/- Value of a digit in either case. -/
def value?
    (c : Char) : Option Nat :=
  if c.isDigit then some (c.toNat - '0'.toNat)
  else if 'a' ≤ c ∧ c ≤ 'f' then some (c.toNat - 'a'.toNat + 10)
  else if 'A' ≤ c ∧ c ≤ 'F' then some (c.toNat - 'A'.toNat + 10)
  else none

/- Value of a run of digits. -/
def number?
    (ds : List Char) : Option Nat :=
  ds.foldlM (fun n d => (value? d).map (16 * n + ·)) 0

/- A lower case digit is read back. -/
theorem value?_digit :
    ∀ n < 16, value? (digit n) = some n := by
  decide

/- An upper case digit is read back. -/
theorem value?_upperDigit :
    ∀ n < 16, value? (upperDigit n) = some n := by
  decide

end Hex

end ProcessEvents
