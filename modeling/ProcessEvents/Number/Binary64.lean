/-
  This file defines double precision numbers by their bits,
  and rounding of exact ratios to them. All arithmetic on
  them is exact arithmetic on natural numbers followed by
  one rounding to the nearest double, ties to the even one.

  Key definitions include:
    * `Binary64`
    * `Binary64.mantissa`
    * `Binary64.exponent`
    * `Binary64.ofRatio`
    * `Binary64.ofDecimal`
    * `Binary64.scaleByTen`
    * `roundHalfEven`
-/

namespace ProcessEvents

------------------------------------------------------------
-- Rounding
------------------------------------------------------------

/-
  The integer nearest to `num / den`, of two the even one.
-/
def roundHalfEven
    (num den : Nat) : Nat :=
  let q := num / den
  let r := num % den
  if 2 * r < den then q
  else if den < 2 * r then q + 1
  else if q % 2 = 0 then q
  else q + 1

/- `a * 2 ^ k / b`, rounded, where `k` may be negative. -/
def roundShifted
    (a b : Nat)
    (k : Int) : Nat :=
  if 0 ≤ k then roundHalfEven (a * Nat.pow 2 k.toNat) b
  else roundHalfEven a (b * Nat.pow 2 (-k).toNat)

------------------------------------------------------------
-- The numbers
------------------------------------------------------------

/- A finite double precision number, given by its bits. -/
structure Binary64 where
  bits : UInt64
  deriving DecidableEq, Repr

namespace Binary64

/- Number of bits of the stored fraction. -/
def fractionBits : Nat :=
  52

/- Exponent of the smallest positive number. -/
def minExponent : Int :=
  -1074

/- The smallest bit pattern that is not a finite magnitude. -/
def infinityBits : Nat :=
  2047 * Nat.pow 2 fractionBits

/- Whether the sign bit is set, as it is for `-0.0`. -/
def isNegative
    (x : Binary64) : Bool :=
  0x8000000000000000 ≤ x.bits.toNat

/- The bits without the sign. -/
def magnitudeBits
    (x : Binary64) : Nat :=
  x.bits.toNat % 0x8000000000000000

/- The stored exponent field. -/
def exponentField
    (x : Binary64) : Nat :=
  x.magnitudeBits / Nat.pow 2 fractionBits

/- The magnitude is `mantissa * 2 ^ exponent`. -/
def mantissa
    (x : Binary64) : Nat :=
  let fraction := x.magnitudeBits % Nat.pow 2 fractionBits
  if x.exponentField = 0 then fraction
  else fraction + Nat.pow 2 fractionBits

/- Power of two that belongs to the mantissa. -/
def exponent
    (x : Binary64) : Int :=
  if x.exponentField = 0 then minExponent
  else minExponent + (x.exponentField - 1 : Nat)

/- Whether the number is `0.0` or `-0.0`. -/
def isZero
    (x : Binary64) : Bool :=
  x.magnitudeBits = 0

/- Put a sign in front of a magnitude given by its bits. -/
def ofMagnitude
    (negative : Bool)
    (magnitude : Nat) : Binary64 :=
  ⟨UInt64.ofNat
    (if negative then magnitude + 0x8000000000000000 else magnitude)⟩

/- The two zeros. -/
def zero
    (negative : Bool) : Binary64 :=
  ofMagnitude negative 0

------------------------------------------------------------
-- Ratios and decimals
------------------------------------------------------------

/- The largest `e` with `2 ^ e ≤ num / den`, for positive arguments. -/
def binaryMagnitude
    (num den : Nat) : Int :=
  let e : Int := (num.log2 : Int) - den.log2
  let reached :=
    if 0 ≤ e then den * Nat.pow 2 e.toNat ≤ num
    else den ≤ num * Nat.pow 2 (-e).toNat
  if reached then e else e - 1

/-
  The double nearest to `num / den`, of two the one with an
  even mantissa; `none` if it would be infinite. The mantissa
  may round up to the next power of two: adding it to the
  exponent's place carries correctly.
-/
def ofRatio
    (negative : Bool)
    (num den : Nat) : Option Binary64 :=
  if num = 0 then some (zero negative)
  else
    let q := max (binaryMagnitude num den - fractionBits) minExponent
    let m := roundShifted num den (-q)
    let bits := (q - minExponent).toNat * Nat.pow 2 fractionBits + m
    if infinityBits ≤ bits then none
    else some (ofMagnitude negative bits)

/- The double nearest to `digits * 10 ^ scale`. -/
def ofDecimal
    (negative : Bool)
    (digits : Nat)
    (scale : Int) : Option Binary64 :=
  if 0 ≤ scale then ofRatio negative (digits * Nat.pow 10 scale.toNat) 1
  else ofRatio negative digits (Nat.pow 10 (-scale).toNat)

/- The double of a natural number below `2 ^ 1023`. -/
def ofNat
    (n : Nat) : Binary64 :=
  (ofRatio false n 1).getD (zero false)

/-
  `x * y` and `x / y` for magnitudes, each rounded once.
-/
def mulMagnitude
    (x y : Binary64) : Option Binary64 :=
  let k := x.exponent + y.exponent
  let m := x.mantissa * y.mantissa
  if 0 ≤ k then ofRatio x.isNegative (m * Nat.pow 2 k.toNat) 1
  else ofRatio x.isNegative m (Nat.pow 2 (-k).toNat)

def divMagnitude
    (x y : Binary64) : Option Binary64 :=
  let k := x.exponent - y.exponent
  if 0 ≤ k then ofRatio x.isNegative (x.mantissa * Nat.pow 2 k.toNat) y.mantissa
  else ofRatio x.isNegative x.mantissa (y.mantissa * Nat.pow 2 (-k).toNat)

/- Largest power of ten that is used as one factor. -/
def maxPowerOfTen : Nat :=
  308

/- The double nearest to `10 ^ k`. -/
def powerOfTen
    (k : Nat) : Binary64 :=
  ofNat (Nat.pow 10 k)

/-
  Divide by `10 ^ k`: by the largest power of ten as long
  as the exponent exceeds it, each step rounded.
-/
def divPowerOfTen
    (x : Binary64)
    (k : Nat) : Binary64 :=
  if x.isZero then x
  else if _h : maxPowerOfTen < k then
    divPowerOfTen
      ((divMagnitude x (powerOfTen maxPowerOfTen)).getD x)
      (k - maxPowerOfTen)
  else (divMagnitude x (powerOfTen k)).getD x
  termination_by k
  decreasing_by
    have : 0 < maxPowerOfTen := by decide
    omega

/-
  `x * 10 ^ scale` with a rounded power of ten as factor or
  divisor, so that the result may differ from the nearest
  double in its last place; `none` if it would be infinite.
-/
def scaleByTen
    (x : Binary64)
    (scale : Int) : Option Binary64 :=
  if scale < 0 then some (divPowerOfTen x (-scale).toNat)
  else if x.isZero then some x
  else if maxPowerOfTen < scale.toNat then none
  else mulMagnitude x (powerOfTen scale.toNat)

end Binary64

end ProcessEvents
