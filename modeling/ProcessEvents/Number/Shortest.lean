import ProcessEvents.Number.Binary64
import ProcessEvents.Text

/-
  This file defines the decimal text of a double: the fewest
  digits that read back as the same number, and of those the
  nearest ones. Numbers from `0.00001` to below `10 ^ 16` are
  written positionally and keep a fraction, all others with
  an exponent.

  Key definitions include:
    * `Binary64.Interval`
    * `Binary64.shortest`
    * `Binary64.toText`
-/

namespace ProcessEvents

namespace Binary64

------------------------------------------------------------
-- The interval that rounds to a number
------------------------------------------------------------

/-
  The ratios that round to one positive double, as multiples
  of `2 ^ unit`: those from `low` to `high`, with the two
  ends only if `closed`.
-/
structure Interval where
  low : Nat
  value : Nat
  high : Nat
  unit : Int
  closed : Bool

/-
  The interval of a positive double. Below a power of two
  the next smaller double is only half as far away.
-/
def interval
    (x : Binary64) : Interval :=
  let m := x.mantissa
  let narrow := m = Nat.pow 2 fractionBits ∧ x.exponentField > 1
  { low := 4 * m - (if narrow then 1 else 2)
    value := 4 * m
    high := 4 * m + 2
    unit := x.exponent - 2
    closed := m % 2 = 0 }

/- `a * 2 ^ unit` and `b * 10 ^ scale` on a common scale. -/
def commonScale
    (a : Nat)
    (unit : Int)
    (b : Nat)
    (scale : Int) : Nat × Nat :=
  let two (k : Int) := Nat.pow 2 k.toNat
  let ten (k : Int) := Nat.pow 10 k.toNat
  (a * two unit * ten (-scale), b * ten scale * two (-unit))

/- Whether `d * 10 ^ scale` lies in the interval. -/
def Interval.contains
    (i : Interval)
    (d : Nat)
    (scale : Int) : Bool :=
  let (low, e) := commonScale i.low i.unit d scale
  let (high, _) := commonScale i.high i.unit d scale
  if i.closed then low ≤ e && e ≤ high
  else low < e && e < high

/- The largest `d` with `d * 10 ^ scale` not above the value. -/
def Interval.below
    (i : Interval)
    (scale : Int) : Nat :=
  let (v, u) := commonScale i.value i.unit 1 scale
  v / u

/-
  Of the two neighbours of the value on the grid of
  multiples of `10 ^ scale`, the one in the interval; the
  nearer one, and of equally near ones the even one, if
  both are.
-/
def Interval.neighbour?
    (i : Interval)
    (scale : Int) : Option Nat :=
  let d := i.below scale
  match i.contains d scale && d != 0, i.contains (d + 1) scale with
  | true, true =>
    let (v, u) := commonScale i.value i.unit 1 scale
    some (roundHalfEven v u)
  | true, false => some d
  | false, true => some (d + 1)
  | false, false => none

------------------------------------------------------------
-- Fewest digits
------------------------------------------------------------

/-
  The exponent `k` with `10 ^ (k - 1) ≤ value < 10 ^ k`,
  found from the binary one and corrected once.
-/
def Interval.decimalMagnitude
    (i : Interval) : Int :=
  let guess : Int := ((i.value.log2 : Int) + i.unit) * 30103 / 100000
  let reached (k : Int) : Bool :=
    let (v, u) := commonScale i.value i.unit 1 k
    u ≤ v
  if reached (guess + 1) then guess + 2
  else if reached guess then guess + 1
  else guess

/- The first grid, from coarse to fine, with a neighbour. -/
def Interval.search
    (i : Interval)
    (scale : Int) : Nat → Nat × Int
  | 0 => (i.below scale, scale)
  | n + 1 =>
    match i.neighbour? scale with
    | some d => (d, scale)
    | none => i.search (scale - 1) n

/- Remove zeros at the end of a digit string. -/
def trimZeros
    (digits : List Char) : List Char :=
  Text.dropEndWhile (· == '0') digits

/-
  The fewest digits that read back as the magnitude, and
  the place of the decimal point after the first digits:
  the number is `0.digits * 10 ^ point`.
-/
def shortest
    (x : Binary64) : List Char × Int :=
  let i := x.interval
  let (d, scale) := i.search (i.decimalMagnitude - 1) 17
  let digits := Nat.toDigits 10 d
  (trimZeros digits, scale + digits.length)

------------------------------------------------------------
-- Layout
------------------------------------------------------------

/- Positions of the decimal point that are written positionally. -/
def isPositional
    (point : Int) : Bool :=
  -5 < point && point ≤ 16

/- Text of the magnitude, from its digits and its point. -/
def layout
    (digits : List Char)
    (point : Int) : List Char :=
  if isPositional point then
    if point ≤ 0 then
      '0' :: '.' :: (List.replicate (-point).toNat '0' ++ digits)
    else
      let whole := digits.take point.toNat
      let padding := List.replicate (point.toNat - whole.length) '0'
      let rest := digits.drop point.toNat
      whole ++ padding ++ '.' :: (if rest.isEmpty then ['0'] else rest)
  else
    let mark := 'e' :: (toString (point - 1)).toList
    match digits with
    | d :: e :: rest => d :: '.' :: e :: rest ++ mark
    | _ => digits ++ mark

/- The decimal text of a double. -/
def toText
    (x : Binary64) : List Char :=
  let sign := if x.isNegative then ['-'] else []
  if x.isZero then sign ++ ['0', '.', '0']
  else
    let (digits, point) := x.shortest
    sign ++ layout digits point

end Binary64

end ProcessEvents
