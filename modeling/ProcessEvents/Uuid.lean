import ProcessEvents.Number.Hex

/-
  This file defines universally unique identifiers and the
  texts that name them.

  Key definitions include:
    * `Uuid`
    * `Uuid.toText`
    * `Uuid.parse?`
-/

namespace ProcessEvents

/- An identifier of 128 bits. -/
structure Uuid where
  bits : BitVec 128
  deriving DecidableEq, Repr

namespace Uuid

/- The identifier whose bits are all zero. -/
def nil : Uuid :=
  ⟨0⟩

instance : Inhabited Uuid :=
  ⟨nil⟩

/- The identifier of a number, modulo its width. -/
def ofNat
    (n : Nat) : Uuid :=
  ⟨BitVec.ofNat 128 n⟩

------------------------------------------------------------
-- Writing
------------------------------------------------------------

/- Insert the hyphens: groups of 8, 4, 4, 4 and 12 digits. -/
def hyphenated
    (ds : List Char) : List Char :=
  ds.take 8 ++ '-' :: ((ds.drop 8).take 4 ++ '-' :: ((ds.drop 12).take 4 ++
    '-' :: ((ds.drop 16).take 4 ++ '-' :: ds.drop 20)))

/- The lower case text with hyphens. -/
def toText
    (u : Uuid) : String :=
  String.ofList (hyphenated (Hex.digits u.bits.toNat 32))

------------------------------------------------------------
-- Reading
------------------------------------------------------------

/- Thirty-two digits without hyphens. -/
def parseSimple?
    (cs : List Char) : Option Uuid :=
  if cs.length = 32 then (Hex.number? cs).map ofNat else none

/- Thirty-two digits with hyphens at their places. -/
def parseHyphenated?
    (cs : List Char) : Option Uuid :=
  let ds := cs.filter (· ≠ '-')
  if hyphenated ds = cs then parseSimple? ds else none

/- Name space that an identifier may be written in, in any case. -/
def namespaceMark : List Char :=
  "urn:uuid:".toList

/-
  The accepted texts: with hyphens, without them, in braces,
  or as a name of the `urn:uuid:` space.
-/
def parse?
    (text : String) : Option Uuid :=
  let cs := text.toList
  if cs.length = 32 then parseSimple? cs
  else if (cs.take namespaceMark.length).map Char.toLower = namespaceMark then
    parseHyphenated? (cs.drop namespaceMark.length)
  else if cs.head? = some '{' ∧ cs.getLast? = some '}' then
    parseHyphenated? (cs.drop 1).dropLast
  else parseHyphenated? cs

end Uuid

end ProcessEvents
