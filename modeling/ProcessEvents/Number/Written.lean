import ProcessEvents.Number.Binary64

/-
  This file defines how settings are read as numbers: natural
  numbers with an upper bound, and durations given in seconds
  as decimal numbers.

  Key definitions include:
    * `Written.nat?`
    * `Written.decimal?`
    * `Written.seconds?`
-/

namespace ProcessEvents

namespace Written

------------------------------------------------------------
-- Natural numbers
------------------------------------------------------------

/- Value of a run of decimal digits. -/
def digitsValue
    (ds : List Char) : Nat :=
  ds.foldl (fun n d => 10 * n + (d.toNat - '0'.toNat)) 0

/- Decimal digits, at least one, with or without a plus sign. -/
def unsigned?
    (cs : List Char) : Option Nat :=
  let ds :=
    match cs with
    | '+' :: rest => rest
    | cs => cs
  if ds.isEmpty || !ds.all Char.isDigit then none
  else some (digitsValue ds)

/- A natural number that is not above a bound. -/
def nat?
    (bound : Nat)
    (text : String) : Option Nat :=
  (unsigned? text.toList).filter (· ≤ bound)

------------------------------------------------------------
-- Decimal numbers
------------------------------------------------------------

/- A sign in front, and what follows it. -/
def splitSign : List Char → Bool × List Char
  | '-' :: rest => (true, rest)
  | '+' :: rest => (false, rest)
  | cs => (false, cs)

/- An exponent after its mark: a sign and at least one digit. -/
def exponent?
    (cs : List Char) : Option Int :=
  let (negative, ds) := splitSign cs
  if ds.isEmpty || !ds.all Char.isDigit then none
  else if negative then some (-(digitsValue ds : Int))
  else some (digitsValue ds)

/- The words for numbers that are no decimal numbers. -/
def isSpecialWord
    (cs : List Char) : Bool :=
  ["inf", "infinity", "nan"].contains (String.ofList (cs.map Char.toLower))

/-
  A decimal number as its digits and the power of ten that
  they are multiplied with. There is a digit before or after
  the point.
-/
def magnitude?
    (cs : List Char) : Option (Nat × Int) := do
  let (whole, cs) := cs.span Char.isDigit
  let (fraction, cs) :=
    match cs with
    | '.' :: rest => rest.span Char.isDigit
    | cs => ([], cs)
  guard (!whole.isEmpty || !fraction.isEmpty)
  let exponent ←
    match cs with
    | [] => some 0
    | 'e' :: rest => exponent? rest
    | 'E' :: rest => exponent? rest
    | _ => none
  return (digitsValue (whole ++ fraction), exponent - fraction.length)

/-
  A number of double precision; the inner `none` stands for
  an infinite one and for none at all.
-/
def decimal?
    (text : String) : Option (Option Binary64) :=
  let (negative, cs) := splitSign text.toList
  if isSpecialWord cs then some none
  else (magnitude? cs).map fun (digits, scale) =>
    if digits = 0 then some (.zero negative)
    else if 400 < scale then none
    else if scale < -400 - (digits.log2 : Int) then some (.zero negative)
    else Binary64.ofDecimal negative digits scale

------------------------------------------------------------
-- Durations
------------------------------------------------------------

def nanosPerSecond : Nat :=
  1000000000

/- Most whole seconds that a duration can hold, and one more. -/
def secondsBound : Nat :=
  0x10000000000000000

/-
  A number of seconds in nanoseconds, to the nearest one and
  ties to the even one; nothing if it is negative or too large.
-/
def nanos?
    (x : Binary64) : Option Nat :=
  if x.isNegative && !x.isZero then none
  else
    let n := roundShifted (x.mantissa * nanosPerSecond) 1 x.exponent
    if n < secondsBound * nanosPerSecond then some n else none

/- Seconds as written, in nanoseconds: unusable ones count as zero. -/
def seconds?
    (text : String) : Option Nat :=
  (decimal? text).map fun x => (x.bind nanos?).getD 0

end Written

end ProcessEvents
