import ProcessEvents.Json.Value
import ProcessEvents.Number.Hex

/-
  This file defines the reader of JSON texts. It is strict:
  no comments, no trailing commas, no leading zeros, control
  characters in texts only as escapes.

  Key definitions include:
    * `Json.Numeral`
    * `Json.Numeral.toJson`
    * `Json.readString`
    * `Json.readValue`
    * `Json.readFirst?`
    * `Json.read?`
-/

namespace ProcessEvents

namespace Json

------------------------------------------------------------
-- Blanks
------------------------------------------------------------

/- The four characters between tokens. -/
def isBlank
    (c : Char) : Bool :=
  c == ' ' || c == '\n' || c == '\t' || c == '\r'

/- Drop blanks in front. -/
def skipBlanks
    (cs : List Char) : List Char :=
  cs.dropWhile isBlank

------------------------------------------------------------
-- Numbers
------------------------------------------------------------

/- A number as it is written. -/
structure Numeral where
  negative : Bool
  whole : List Char
  fraction : List Char
  exponent : Int
  hasMark : Bool
  deriving Repr

/- Value of a run of decimal digits. -/
def digitsValue
    (ds : List Char) : Nat :=
  ds.foldl (fun n d => 10 * n + (d.toNat - '0'.toNat)) 0

/- Digits before the point: a single zero, or no zero in front. -/
def readWhole : List Char → Option (List Char × List Char)
  | '0' :: rest =>
    match rest with
    | d :: _ => if d.isDigit then none else some (['0'], rest)
    | [] => some (['0'], [])
  | d :: rest =>
    if d.isDigit then some ((d :: rest).span Char.isDigit) else none
  | [] => none

/- A nonempty run of digits. -/
def readDigits
    (cs : List Char) : Option (List Char × List Char) :=
  match cs.span Char.isDigit with
  | ([], _) => none
  | (ds, rest) => some (ds, rest)

/- An optional fraction, without its point. -/
def readFraction : List Char → Option (List Char × List Char)
  | '.' :: rest => readDigits rest
  | cs => some ([], cs)

/- An optional exponent; the first part says whether there is one. -/
def readExponent
    (cs : List Char) : Option (Bool × Int × List Char) :=
  let signed : List Char → Option (Bool × Int × List Char)
    | '-' :: rest =>
      (readDigits rest).map fun (ds, r) => (true, -(digitsValue ds : Int), r)
    | '+' :: rest =>
      (readDigits rest).map fun (ds, r) => (true, (digitsValue ds : Int), r)
    | rest =>
      (readDigits rest).map fun (ds, r) => (true, (digitsValue ds : Int), r)
  match cs with
  | 'e' :: rest => signed rest
  | 'E' :: rest => signed rest
  | cs => some (false, 0, cs)

/- A number in front of a text. -/
def readNumeral
    (cs : List Char) : Option (Numeral × List Char) := do
  let (negative, cs) :=
    match cs with
    | '-' :: rest => (true, rest)
    | cs => (false, cs)
  let (whole, cs) ← readWhole cs
  let (fraction, cs) ← readFraction cs
  let (marked, exponent, cs) ← readExponent cs
  return (
    ⟨negative, whole, fraction, exponent, marked || !fraction.isEmpty⟩, cs)

/- Largest significand that is kept exactly. -/
def maxSignificand : Nat :=
  0xFFFFFFFFFFFFFFFF

/-
  Append digits to a significand as long as it stays within
  its bound; the second part counts the appended ones.
-/
def appendDigits
    (significand : Nat) : List Char → Nat × Nat
  | [] => (significand, 0)
  | d :: rest =>
    let next := 10 * significand + (d.toNat - '0'.toNat)
    if maxSignificand < next then (significand, 0)
    else
      let (s, n) := appendDigits next rest
      (s, n + 1)

/-
  The double of a number: digits beyond the bound of the
  significand are dropped, and the rest is scaled by one
  power of ten.
-/
def Numeral.toDouble
    (n : Numeral) : Option Binary64 :=
  let (s, taken) := appendDigits 0 n.whole
  let (s, added) := appendDigits s n.fraction
  let scale : Int := ((n.whole.length - taken : Nat) : Int) - added + n.exponent
  (Binary64.ofRatio n.negative s 1).bind (·.scaleByTen scale)

/-
  The value of a number. Without fraction and exponent it is
  an integer if it lies between `-2 ^ 63` and `2 ^ 64 - 1`
  and is not a negative zero.
-/
def Numeral.toJson
    (n : Numeral) : Json :=
  let double :=
    match n.toDouble with
    | some x => .double x
    | none => .unreadable
  if n.hasMark then double
  else
    let v := digitsValue n.whole
    if n.negative then
      if 0 < v ∧ v ≤ 0x8000000000000000 then .int (-(v : Int)) else double
    else if v ≤ maxSignificand then .int v
    else double

------------------------------------------------------------
-- Texts
------------------------------------------------------------

/- One element of a written text: a character, or a `\u` escape. -/
inductive TextUnit where
  | char (c : Char)
  | code (n : Nat)
  deriving DecidableEq, Repr

/- The character of a one letter escape. -/
def escapedChar? : Char → Option Char
  | '"' => some '"'
  | '\\' => some '\\'
  | '/' => some '/'
  | 'b' => some '\x08'
  | 'f' => some '\x0c'
  | 'n' => some '\n'
  | 'r' => some '\r'
  | 't' => some '\t'
  | _ => none

/- Whether a character has to be escaped within a text. -/
def isControl
    (c : Char) : Bool :=
  c.toNat < 32

/- The units up to the closing quote, and what follows it. -/
def readUnits : List Char → Option (List TextUnit × List Char)
  | [] => none
  | '"' :: rest => some ([], rest)
  | '\\' :: 'u' :: a :: b :: c :: d :: rest => do
    let n ← Hex.number? [a, b, c, d]
    let (units, rest) ← readUnits rest
    return (.code n :: units, rest)
  | '\\' :: e :: rest => do
    let c ← escapedChar? e
    let (units, rest) ← readUnits rest
    return (.char c :: units, rest)
  | c :: rest => do
    guard (!isControl c && c != '\\')
    let (units, rest) ← readUnits rest
    return (.char c :: units, rest)

/- The two halves of the surrogate range. -/
def isHighSurrogate
    (n : Nat) : Bool :=
  0xD800 ≤ n && n < 0xDC00

def isLowSurrogate
    (n : Nat) : Bool :=
  0xDC00 ≤ n && n < 0xE000

/- The character of a surrogate pair. -/
def pairedChar
    (high low : Nat) : Char :=
  Char.ofNat (0x10000 + (high - 0xD800) * 0x400 + (low - 0xDC00))

/-
  The characters of a text; nothing if a surrogate escape is
  not one half of a pair.
-/
def textOfUnits : List TextUnit → Option (List Char)
  | [] => some []
  | .char c :: rest => (textOfUnits rest).map (c :: ·)
  | .code high :: .code low :: rest =>
    if isHighSurrogate high then
      if isLowSurrogate low then
        (textOfUnits rest).map (pairedChar high low :: ·)
      else none
    else if isLowSurrogate high then none
    else (textOfUnits (.code low :: rest)).map (Char.ofNat high :: ·)
  | .code n :: rest =>
    if isHighSurrogate n || isLowSurrogate n then none
    else (textOfUnits rest).map (Char.ofNat n :: ·)

/- A text after its opening quote; the inner `none` is an unreadable one. -/
def readString
    (cs : List Char) : Option (Option String × List Char) :=
  (readUnits cs).map fun (units, rest) =>
    ((textOfUnits units).map String.ofList, rest)

------------------------------------------------------------
-- Values
------------------------------------------------------------

/- Most levels of arrays and objects within each other. -/
def maxLevel : Nat :=
  127

/- A value that may be used on the given level. -/
def atLevel
    (level : Nat)
    (j : Json) : Json :=
  if level < maxLevel then j else .unreadable

/-
  An object of members with readable keys; a key that cannot
  be read makes the whole object unreadable.
-/
def ofMembers
    (members : List (Option String × Json)) : Json :=
  match members.mapM (fun m => m.1.map fun k => (k, m.2)) with
  | some ms => .obj ms
  | none => .unreadable

mutual

/-
  A value in front of a text, after blanks, and what follows
  it. The first argument bounds the recursion, the second
  one counts the arrays and objects around the value.
-/
def readValue : Nat → Nat → List Char → Option (Json × List Char)
  | 0, _, _ => none
  | fuel + 1, level, cs =>
    match skipBlanks cs with
    | 'n' :: 'u' :: 'l' :: 'l' :: rest => some (.null, rest)
    | 't' :: 'r' :: 'u' :: 'e' :: rest => some (.bool true, rest)
    | 'f' :: 'a' :: 'l' :: 's' :: 'e' :: rest => some (.bool false, rest)
    | '"' :: rest =>
      (readString rest).map fun (s, rest) =>
        (match s with
          | some s => .str s
          | none => .unreadable,
        rest)
    | '[' :: rest =>
      match skipBlanks rest with
      | ']' :: rest => some (atLevel level (.arr []), rest)
      | rest =>
        (readItems fuel (level + 1) rest).map fun (items, rest) =>
          (atLevel level (.arr items), rest)
    | '{' :: rest =>
      match skipBlanks rest with
      | '}' :: rest => some (atLevel level (.obj []), rest)
      | rest =>
        (readMembers fuel (level + 1) rest).map fun (members, rest) =>
          (atLevel level (ofMembers members), rest)
    | rest => (readNumeral rest).map fun (n, rest) => (n.toJson, rest)

/- Items up to the closing bracket, at least one. -/
def readItems : Nat → Nat → List Char → Option (List Json × List Char)
  | 0, _, _ => none
  | fuel + 1, level, cs =>
    match readValue fuel level cs with
    | none => none
    | some (j, rest) =>
      match skipBlanks rest with
      | ']' :: rest => some ([j], rest)
      | ',' :: rest =>
        (readItems fuel level rest).map fun (items, rest) => (j :: items, rest)
      | _ => none

/- Members up to the closing brace, at least one. -/
def readMembers :
    Nat → Nat → List Char → Option (List (Option String × Json) × List Char)
  | 0, _, _ => none
  | fuel + 1, level, cs =>
    match skipBlanks cs with
    | '"' :: rest =>
      match readString rest with
      | none => none
      | some (key, rest) =>
        match skipBlanks rest with
        | ':' :: rest =>
          match readValue fuel level rest with
          | none => none
          | some (j, rest) =>
            match skipBlanks rest with
            | '}' :: rest => some ([(key, j)], rest)
            | ',' :: rest =>
              (readMembers fuel level rest).map fun (members, rest) =>
                ((key, j) :: members, rest)
            | _ => none
        | _ => none
    | _ => none

end

/-
  Every step of the recursion that stays on a level uses up
  a character, and so does every step to the next level.
-/
def readBound
    (cs : List Char) : Nat :=
  2 * cs.length + 2

/- The first value of a text, and what follows it. -/
def readFirst?
    (cs : List Char) : Option (Json × List Char) :=
  readValue (readBound cs) 0 cs

/- The value of a text that holds nothing else. -/
def readChars?
    (cs : List Char) : Option Json :=
  match readFirst? cs with
  | some (j, rest) => if (skipBlanks rest).isEmpty then some j else none
  | none => none

/- The value of a text that holds nothing else. -/
def read?
    (text : String) : Option Json :=
  readChars? text.toList

end Json

end ProcessEvents
