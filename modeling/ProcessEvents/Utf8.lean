/-
  This file defines the UTF-8 encoding of characters. The
  decoder reads any bytes: where they encode no character it
  yields one gap for the longest start of an encoding, or for
  a single byte that starts none.

  Key definitions include:
    * `Utf8.encodeChar`, `Utf8.encode`
    * `Utf8.units`
    * `Utf8.decode?`
    * `Utf8.decodeLossy`
-/

namespace ProcessEvents

namespace Utf8

------------------------------------------------------------
-- Encoding
------------------------------------------------------------

/- The first byte of a character. -/
def firstByte
    (c : Char) : Nat :=
  let n := c.toNat
  if n < 0x80 then n
  else if n < 0x800 then 0xC0 + n / 0x40
  else if n < 0x10000 then 0xE0 + n / 0x1000
  else 0xF0 + n / 0x40000

/- A byte that continues a character, with six bits of it. -/
def continuation
    (n : Nat) : Nat :=
  0x80 + n % 64

/- The bytes of a character. -/
def encodeChar
    (c : Char) : List UInt8 :=
  let n := c.toNat
  let tail :=
    if n < 0x80 then []
    else if n < 0x800 then [continuation n]
    else if n < 0x10000 then [continuation (n / 0x40), continuation n]
    else
      [continuation (n / 0x1000), continuation (n / 0x40), continuation n]
  (firstByte c :: tail).map UInt8.ofNat

/- The bytes of a text. -/
def encode
    (cs : List Char) : List UInt8 :=
  cs.flatMap encodeChar

/- How many bytes a text has. -/
def byteCount
    (cs : List Char) : Nat :=
  (encode cs).length

/- The last byte of a character. -/
def lastByte
    (c : Char) : Nat :=
  if c.toNat < 0x80 then c.toNat else continuation c.toNat

------------------------------------------------------------
-- Decoding
------------------------------------------------------------

/-
  A character of which some bytes have been read: its bits
  so far, how many bytes are missing, and the bounds of the
  next one.
-/
structure Pending where
  bits : Nat
  missing : Nat
  low : Nat
  high : Nat
  deriving DecidableEq, Repr

/- What a byte at the start of a character means. -/
inductive Start where
  | char (c : Char)
  | pending (p : Pending)
  | invalid
  deriving DecidableEq, Repr

/-
  The start of a character. The bounds of the second byte
  exclude overlong forms, surrogates and what is beyond the
  last character.
-/
def start
    (b : Nat) : Start :=
  if b < 0x80 then .char (Char.ofNat b)
  else if 0xC2 ≤ b ∧ b ≤ 0xDF then .pending ⟨b - 0xC0, 1, 0x80, 0xBF⟩
  else if b = 0xE0 then .pending ⟨0, 2, 0xA0, 0xBF⟩
  else if b = 0xED then .pending ⟨0xD, 2, 0x80, 0x9F⟩
  else if 0xE1 ≤ b ∧ b ≤ 0xEF then .pending ⟨b - 0xE0, 2, 0x80, 0xBF⟩
  else if b = 0xF0 then .pending ⟨0, 3, 0x90, 0xBF⟩
  else if b = 0xF4 then .pending ⟨4, 3, 0x80, 0x8F⟩
  else if 0xF1 ≤ b ∧ b ≤ 0xF3 then .pending ⟨b - 0xF0, 3, 0x80, 0xBF⟩
  else .invalid

/- Go on after the first byte of a character. -/
def begin
    (b : UInt8) : List (Option Char) × Option Pending :=
  match start b.toNat with
  | .char c => ([some c], none)
  | .pending p => ([], some p)
  | .invalid => ([none], none)

/- Go on after one more byte of a character. -/
def advance
    (p : Pending)
    (b : UInt8) : List (Option Char) × Option Pending :=
  if p.low ≤ b.toNat ∧ b.toNat ≤ p.high then
    let bits := p.bits * 64 + b.toNat % 64
    if p.missing ≤ 1 then ([some (Char.ofNat bits)], none)
    else ([], some ⟨bits, p.missing - 1, 0x80, 0xBF⟩)
  else
    let (out, p) := begin b
    (none :: out, p)

/- The characters of bytes, with gaps, after a started character. -/
def unitsFrom : Option Pending → List UInt8 → List (Option Char)
  | none, [] => []
  | some _, [] => [none]
  | none, b :: rest =>
    let (out, p) := begin b
    out ++ unitsFrom p rest
  | some p, b :: rest =>
    let (out, p) := advance p b
    out ++ unitsFrom p rest

/- The characters of bytes, with gaps. -/
def units
    (bytes : List UInt8) : List (Option Char) :=
  unitsFrom none bytes

/- The text of bytes that encode one. -/
def decode?
    (bytes : List UInt8) : Option (List Char) :=
  (units bytes).mapM id

/- The character that stands for a gap. -/
def replacement : Char :=
  Char.ofNat 0xFFFD

/- The text of bytes, with replacements for gaps. -/
def decodeLossy
    (bytes : List UInt8) : List Char :=
  (units bytes).map (·.getD replacement)

end Utf8

end ProcessEvents
