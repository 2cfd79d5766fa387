import ProcessEvents.Text
import ProcessEvents.Unicode.Mapping
import ProcessEvents.Unicode.Property
import ProcessEvents.Url.Punycode

/-
  This file defines the ASCII form of domain names. A name is
  mapped to its composed form in one case; its labels are
  checked, and those beyond ASCII are encoded. A label that
  is encoded already has to stand for one in that form.

  Key definitions include:
    * `Domain.isForbidden`
    * `Domain.joinersFit`
    * `Domain.fitsDirection`
    * `Domain.Label`
    * `Domain.Label.read?`
    * `Domain.toAscii?`
-/

namespace ProcessEvents

namespace Domain

open Unicode

------------------------------------------------------------
-- Characters
------------------------------------------------------------

/- The characters that no name may hold. -/
def isForbidden
    (c : Char) : Bool :=
  c.toNat ≤ 0x20 || c.toNat == 0x7F || "%#/:<>?@[\\]^|".toList.contains c

/- The form of a name, if all of its characters may be used. -/
def normal?
    (cs : List Char) : Option (List Char) :=
  (mapped? cs).filter fun cs => !cs.any isForbidden

------------------------------------------------------------
-- Joiners
------------------------------------------------------------

/- Whether the next letter is one of a kind. -/
def nextIs
    (kind : Char → Bool)
    (cs : List Char) : Bool :=
  match cs.dropWhile fun c => isTransparent c && !kind c with
  | c :: _ => kind c
  | [] => false

/- The character that keeps its neighbours from joining. -/
def nonJoiner : Char :=
  Char.ofNat 0x200C

/- The character that makes its neighbours join. -/
def joiner : Char :=
  Char.ofNat 0x200D

/-
  Whether a joiner of either kind makes a difference where it
  stands: behind a virama, or between letters that join as
  far as it keeps them from it. What stands in front is given
  from the last character on.
-/
def joinerFits
    (c : Char)
    (before after : List Char) : Bool :=
  before.head?.any isVirama ||
    (c == nonJoiner && nextIs joinsFollowing before &&
      nextIs joinsPreceding after)

/- Whether every joiner makes a difference. -/
def joinersFit
    (before : List Char) : List Char → Bool
  | [] => true
  | c :: after =>
    ((c != nonJoiner && c != joiner) || joinerFits c before after) &&
      joinersFit (c :: before) after

------------------------------------------------------------
-- Direction
------------------------------------------------------------

/- Whether characters make the direction of a name matter. -/
def hasDirection
    (cs : List Char) : Bool :=
  cs.any fun c =>
    Direction.ofChar c == .rightToLeft || Direction.ofChar c == .arabicNumber

/- The last direction that is not one of a mark, and those in front of it. -/
def splitLastDirection?
    (ds : List Direction) : Option (List Direction × Direction) :=
  match ds.reverse.dropWhile (· == .nonspacing) with
  | last :: before => some (before.reverse, last)
  | [] => none

/- Whether what follows a letter from left to right keeps the direction. -/
def followsLeftToRight
    (ds : List Direction) : Bool :=
  match splitLastDirection? ds with
  | none => true
  | some (before, last) =>
    (last == .leftToRight || last == .europeanNumber) &&
      before.all fun d => d != .rightToLeft && d != .arabicNumber

/-
  Whether what follows a letter from right to left keeps the
  direction. Only one kind of numbers may occur.
-/
def followsRightToLeft
    (ds : List Direction) : Bool :=
  match splitLastDirection? ds with
  | none => true
  | some (before, last) =>
    (last == .rightToLeft || last == .europeanNumber ||
      last == .arabicNumber) &&
      before.all (· != .leftToRight) &&
      !(ds.contains .europeanNumber && ds.contains .arabicNumber)

/- Whether a label keeps its place where directions matter. -/
def fitsDirection
    (cs : List Char) : Bool :=
  match cs.map Direction.ofChar with
  | [] => true
  | .leftToRight :: rest => followsLeftToRight rest
  | .rightToLeft :: rest => followsRightToLeft rest
  | _ :: _ => false

------------------------------------------------------------
-- Labels
------------------------------------------------------------

/- A label as it is meant, and as it is written in ASCII. -/
structure Label where
  text : List Char
  ascii : List Char
  deriving DecidableEq, Repr

namespace Label

/- The mark in front of labels that are encoded. -/
def mark : List Char :=
  "xn--".toList

/- Most characters of a label that is encoded. -/
def maxLength : Nat := 1000

/- Most characters of a label that is decoded. -/
def maxEncodedLength : Nat := 2000

/- The label that is encoded behind the mark. -/
def ofEncoded?
    (cs : List Char) : Option Label := do
  guard (cs.getLast?.any (· != '-') && cs.length ≤ maxEncodedLength)
  let text ← Punycode.decode? cs
  guard (normal? text == some text)
  return { text, ascii := mark ++ cs }

/- The label that is written as it is meant. -/
def ofText?
    (cs : List Char) : Option Label :=
  if cs.all fun c => c.toNat < 128 then some { text := cs, ascii := cs }
  else if cs.length ≤ maxLength then
    some { text := cs, ascii := mark ++ Punycode.encode cs }
  else none

/- Whether a label begins with no mark, and all its joiners fit. -/
def isWellFormed
    (l : Label) : Bool :=
  !l.text.head?.any isMark && joinersFit [] l.text

/- The label of a part of a name. -/
def read?
    (cs : List Char) : Option Label :=
  (match Text.stripPrefix? mark cs with
    | some rest => ofEncoded? rest
    | none => ofText? cs).filter isWellFormed

end Label

------------------------------------------------------------
-- Names
------------------------------------------------------------

/- The ASCII form of a name. -/
def toAscii?
    (cs : List Char) : Option (List Char) := do
  let cs ← normal? cs
  let labels ← (Text.parts '.' cs).mapM Label.read?
  guard (!(labels.any fun l => hasDirection l.text) ||
    labels.all fun l => fitsDirection l.text)
  return ['.'].intercalate (labels.map (·.ascii))

end Domain

end ProcessEvents
