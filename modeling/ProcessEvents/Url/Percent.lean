import ProcessEvents.Number.Hex
import ProcessEvents.Utf8

/-
  This file defines percent-encoding: characters that may
  not stand for themselves are written as the bytes of their
  encoding, each as a percent sign with two digits.

  Key definitions include:
    * `Percent.encode`
    * `Percent.decode`
    * `Percent.decodeText?`, `Percent.decodeLossy`
-/

namespace ProcessEvents

namespace Percent

------------------------------------------------------------
-- Encoding
------------------------------------------------------------

/- A byte as a percent sign with two upper case digits. -/
def encodeByte
    (b : UInt8) : List Char :=
  ['%', Hex.upperDigit (b.toNat / 16), Hex.upperDigit (b.toNat % 16)]

/- Control characters, and everything beyond ASCII. -/
def isControlOrBeyond
    (c : Char) : Bool :=
  c.toNat < 0x20 || 0x7F ≤ c.toNat

/- A character, encoded if it is in a set. -/
def encodeChar
    (escaped : Char → Bool)
    (c : Char) : List Char :=
  if escaped c then (Utf8.encodeChar c).flatMap encodeByte else [c]

/- A text in which the characters of a set are encoded. -/
def encode
    (escaped : Char → Bool)
    (cs : List Char) : List Char :=
  cs.flatMap (encodeChar escaped)

------------------------------------------------------------
-- Decoding
------------------------------------------------------------

/-
  The bytes of a text. A percent sign without two digits
  stands for itself.
-/
def decode : List Char → List UInt8
  | '%' :: a :: b :: rest =>
    match Hex.value? a, Hex.value? b with
    | some high, some low => UInt8.ofNat (16 * high + low) :: decode rest
    | _, _ => Utf8.encodeChar '%' ++ decode (a :: b :: rest)
  | c :: rest => Utf8.encodeChar c ++ decode rest
  | [] => []
termination_by cs => cs.length

/- The decoded text, if its bytes encode one. -/
def decodeText?
    (cs : List Char) : Option (List Char) :=
  Utf8.decode? (decode cs)

/- The decoded text, with replacements for what is no character. -/
def decodeLossy
    (cs : List Char) : List Char :=
  Utf8.decodeLossy (decode cs)

end Percent

end ProcessEvents
