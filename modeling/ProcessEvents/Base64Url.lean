import ProcessEvents.Text
import ProcessEvents.Utf8

/-
  This file defines the URL-safe base64 encoding without
  padding: sixty-four symbols for six bits each, and unused
  bits of the last symbol that have to be zero.

  Faults name a byte of the text and its place among the
  bytes. All characters before the first invalid one are
  symbols of one byte, so places are counted by characters.

  Key definitions include:
    * `Base64Url.symbol`
    * `Base64Url.value?`
    * `Base64Url.encode`
    * `Base64Url.Fault`
    * `Base64Url.decode`
-/

namespace ProcessEvents

namespace Base64Url

------------------------------------------------------------
-- Symbols
------------------------------------------------------------

/- The symbol of six bits. -/
def symbol
    (n : Nat) : Char :=
  if n < 26 then Char.ofNat (n + 'A'.toNat)
  else if n < 52 then Char.ofNat (n - 26 + 'a'.toNat)
  else if n < 62 then Char.ofNat (n - 52 + '0'.toNat)
  else if n = 62 then '-'
  else '_'

/- The six bits of a symbol. -/
def value?
    (c : Char) : Option Nat :=
  if 'A' ≤ c ∧ c ≤ 'Z' then some (c.toNat - 'A'.toNat)
  else if 'a' ≤ c ∧ c ≤ 'z' then some (c.toNat - 'a'.toNat + 26)
  else if '0' ≤ c ∧ c ≤ '9' then some (c.toNat - '0'.toNat + 52)
  else if c = '-' then some 62
  else if c = '_' then some 63
  else none

/- Every six bits are read back from their symbol. -/
theorem value?_symbol :
    ∀ n < 64, value? (symbol n) = some n := by
  decide

------------------------------------------------------------
-- Encoding
------------------------------------------------------------

/- The symbols of bytes: four for three bytes, fewer at the end. -/
def encode : List UInt8 → List Char
  | a :: b :: c :: rest =>
    let n := (a.toNat * 256 + b.toNat) * 256 + c.toNat
    symbol (n / 0x40000) :: symbol (n / 0x1000 % 64) ::
      symbol (n / 0x40 % 64) :: symbol (n % 64) :: encode rest
  | [a, b] =>
    let n := (a.toNat * 256 + b.toNat) * 4
    [symbol (n / 0x1000), symbol (n / 0x40 % 64), symbol (n % 64)]
  | [a] =>
    let n := a.toNat * 16
    [symbol (n / 0x40), symbol (n % 64)]
  | [] => []

------------------------------------------------------------
-- Decoding
------------------------------------------------------------

/- Why a text is no encoding of bytes. -/
inductive Fault where
  | invalidSymbol (byte offset : Nat)
  | invalidLength (count : Nat)
  | invalidLastSymbol (byte offset : Nat)
  deriving DecidableEq, Repr

def Fault.message : Fault → String
  | .invalidSymbol byte offset =>
    "Invalid symbol " ++ Text.decimal byte ++
      ", offset " ++ Text.decimal offset ++ "."
  | .invalidLength count =>
    "Invalid input length: " ++ Text.decimal count
  | .invalidLastSymbol byte offset =>
    "Invalid last symbol " ++ Text.decimal byte ++
      ", offset " ++ Text.decimal offset ++ "."

/- The values of the symbols, numbered from an offset. -/
def values
    (offset : Nat) : List Char → Except Fault (List Nat)
  | [] => .ok []
  | c :: rest =>
    match value? c with
    | none => .error (.invalidSymbol (Utf8.firstByte c) offset)
    | some v => (values (offset + 1) rest).map (v :: ·)

/-
  The bytes of symbol values. One symbol alone holds no
  byte, and unused bits have to be zero.
-/
def bytes
    (offset : Nat) : List Nat → Except Fault (List UInt8)
  | a :: b :: c :: d :: rest =>
    let n := ((a * 64 + b) * 64 + c) * 64 + d
    (bytes (offset + 4) rest).map fun tail =>
      UInt8.ofNat (n / 0x10000) :: UInt8.ofNat (n / 0x100 % 256) ::
        UInt8.ofNat (n % 256) :: tail
  | [a, b, c] =>
    let n := (a * 64 + b) * 64 + c
    if n % 4 = 0 then
      .ok [UInt8.ofNat (n / 0x400), UInt8.ofNat (n / 4 % 256)]
    else .error (.invalidLastSymbol (symbol c).toNat (offset + 2))
  | [a, b] =>
    let n := a * 64 + b
    if n % 16 = 0 then .ok [UInt8.ofNat (n / 16)]
    else .error (.invalidLastSymbol (symbol b).toNat (offset + 1))
  | [_] => .error (.invalidLength (offset + 1))
  | [] => .ok []

/-
  A last byte that stands alone in its group of four and is
  no symbol, such as a line break. It is reported before any
  other fault.
-/
def strayLast?
    (cs : List Char) : Option Fault := do
  let last ← cs.getLast?
  let count := Utf8.byteCount cs
  guard (count % 4 = 1 && (value? last).isNone)
  return .invalidSymbol (Utf8.lastByte last) (count - 1)

/- The bytes of a text. -/
def decode
    (cs : List Char) : Except Fault (List UInt8) :=
  match strayLast? cs with
  | some fault => .error fault
  | none => do
    let vs ← values 0 cs
    bytes 0 vs

end Base64Url

end ProcessEvents
