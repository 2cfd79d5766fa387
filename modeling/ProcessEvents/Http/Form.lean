import ProcessEvents.Text
import ProcessEvents.Url.Percent

/-
  This file defines the encoding of forms and queries: pairs
  of names and values, with `&` and `=` between them and `+`
  for blanks.

  Key definitions include:
    * `Form.write`
    * `Form.read`
-/

namespace ProcessEvents

namespace Form

------------------------------------------------------------
-- Writing
------------------------------------------------------------

/- The characters that stand for themselves. -/
def isPlain
    (c : Char) : Bool :=
  c.isAlphanum || c == '*' || c == '-' || c == '.' || c == '_'

/- One name or value. -/
def encode
    (cs : List Char) : List Char :=
  cs.flatMap fun c =>
    if c = ' ' then ['+'] else Percent.encodeChar (fun c => !isPlain c) c

/- One pair. -/
def writePair
    (pair : String × String) : String :=
  String.ofList (encode pair.1.toList ++ '=' :: encode pair.2.toList)

/- Pairs in their order. -/
def write
    (pairs : List (String × String)) : String :=
  String.intercalate "&" (pairs.map writePair)

------------------------------------------------------------
-- Reading
------------------------------------------------------------

/- One name or value. -/
def decode
    (cs : List Char) : String :=
  String.ofList
    (Percent.decodeLossy (cs.map fun c => if c = '+' then ' ' else c))

/- One pair; a name may stand without a value. -/
def readPair
    (cs : List Char) : String × String :=
  let (name, value) := Text.splitFirst '=' cs
  (decode name, decode (value.getD []))

/- The pairs in their order. -/
def read
    (text : String) : List (String × String) :=
  ((Text.parts '&' text.toList).filter fun part => !part.isEmpty).map readPair

end Form

end ProcessEvents
