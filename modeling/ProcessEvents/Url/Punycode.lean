/-
  This file defines how labels beyond ASCII are written in
  ASCII: first the characters that are ASCII, then the places
  and code points of the others, as numbers in base
  thirty-six whose least places come first.

  Key definitions include:
    * `Punycode.encode`
    * `Punycode.decode?`

  Key theorems include:
    * `Punycode.digitValue?_digit`
-/

namespace ProcessEvents

namespace Punycode

def base : Nat := 36

/- The digit of a number below thirty-six: letters, then digits. -/
def digit
    (n : Nat) : Char :=
  if n < 26 then Char.ofNat (n + 'a'.toNat) else Char.ofNat (n - 26 + '0'.toNat)

/- The least value of a place, which is between one and twenty-six. -/
def threshold
    (bias place : Nat) : Nat :=
  max 1 (min 26 (place - bias))

/- The digits of a number, from the given place on. -/
def digits
    (bias place n : Nat) : List Char :=
  let t := threshold bias place
  if n < t then [digit n]
  else
    digit (t + (n - t) % (base - t)) ::
      digits bias (place + base) ((n - t) / (base - t))
termination_by n
decreasing_by
  have h₁ : 1 ≤ threshold bias place := Nat.le_max_left 1 _
  have h₂ :=
    Nat.div_le_self (n - threshold bias place) (base - threshold bias place)
  omega

/- The bias of a distance, which is halved until it is small. -/
def biasOf
    (distance : Nat) : Nat :=
  if h : 455 < distance then base + biasOf (distance / 35)
  else base * distance / (distance + 38)
termination_by distance
decreasing_by omega

/- The bias after a distance, when `count` characters are written. -/
def adapt
    (isFirst : Bool)
    (distance count : Nat) : Nat :=
  let d := if isFirst then distance / 700 else distance / 2
  biasOf (d + d / count)

/- What has been written, and how far the next character is away. -/
structure Progress where
  bias : Nat
  distance : Nat
  written : Nat
  output : List Char
  deriving Repr

/- Go on with one character of the label while `n` is inserted. -/
def step
    (isFirst : Nat → Bool)
    (n : Nat)
    (p : Progress)
    (c : Char) : Progress :=
  if c.toNat < n then { p with distance := p.distance + 1 }
  else if c.toNat = n then
    { bias := adapt (isFirst p.written) p.distance (p.written + 1)
      distance := 0
      written := p.written + 1
      output := p.output ++ digits p.bias base p.distance }
  else p

/- Insert the code points one after the other, from the last one on. -/
def insertAll
    (cs : List Char)
    (isFirst : Nat → Bool) : Nat → Progress → List Nat → Progress
  | _, p, [] => p
  | last, p, n :: rest =>
    let p := { p with distance := p.distance + (n - last) * (p.written + 1) }
    let p := cs.foldl (step isFirst n) p
    insertAll cs isFirst (n + 1) { p with distance := p.distance + 1 } rest

/- The code points beyond ASCII, ascending and each once. -/
def codePoints
    (cs : List Char) : List Nat :=
  (((cs.map Char.toNat).filter (128 ≤ ·)).mergeSort (· ≤ ·)).eraseReps

/- The digits and ASCII characters of a label. -/
def encode
    (cs : List Char) : List Char :=
  let plain := cs.filter fun c => c.toNat < 128
  let front := if plain.isEmpty then [] else plain ++ ['-']
  (insertAll cs (· == plain.length) 128
    { bias := 72, distance := 0, written := plain.length, output := front }
    (codePoints cs)).output

/- The number of a digit: that of a letter, or of a decimal digit. -/
def digitValue?
    (c : Char) : Option Nat :=
  if 'a' ≤ c ∧ c ≤ 'z' then some (c.toNat - 'a'.toNat)
  else if '0' ≤ c ∧ c ≤ '9' then some (c.toNat - '0'.toNat + 26)
  else none

/- Every digit has its number. -/
theorem digitValue?_digit :
    ∀ n < base, digitValue? (digit n) = some n := by
  decide

/-
  What has been read: the characters so far, the last code
  point that was inserted and the place behind it, and the
  distance that is being read, digit by digit.
-/
structure Reading where
  output : List Char
  bias : Nat := 72
  last : Nat := 128
  index : Nat := 0
  isFirst : Bool := true
  distance : Nat := 0
  weight : Nat := 1
  place : Nat := base
  deriving Repr

/- Insert the character that a complete distance leads to. -/
def insertNext
    (r : Reading) : Option Reading :=
  let count := r.output.length + 1
  let target := r.index + r.distance
  let next := r.last + target / count
  if next.isValidChar then
    some {
      output := r.output.insertIdx (target % count) (Char.ofNat next)
      bias := adapt r.isFirst r.distance count
      last := next
      index := target % count + 1
      isFirst := false }
  else none

/- Go on with one digit, which ends a distance if it is small. -/
def readDigit
    (r : Reading)
    (c : Char) : Option Reading := do
  let d ← digitValue? c
  let t := threshold r.bias r.place
  let r := { r with distance := r.distance + d * r.weight }
  if d < t then insertNext r
  else some { r with weight := r.weight * (base - t), place := r.place + base }

/- The label of ASCII characters and digits. -/
def decode?
    (cs : List Char) : Option (List Char) := do
  let digits := (cs.reverse.takeWhile (· ≠ '-')).reverse
  let plain := cs.take (cs.length - digits.length - 1)
  let digits := if plain.isEmpty then cs else digits
  guard (plain.all fun c => c.toNat < 128)
  let r ← digits.foldlM readDigit { output := plain }
  if r.place = base then some r.output else none

end Punycode

end ProcessEvents
