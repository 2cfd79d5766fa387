import ProcessEvents.Json.Reader

/-
  This file defines embedded values. An object whose first
  member has a certain key stands, within a free value, for
  the value that is written in the text of this member, its
  only one.

  Key definitions include:
    * `Json.embeddingKey`
    * `Json.expandWith`
    * `Json.expand?`
    * `Json.free?`
    * `Json.readFree?`
-/

namespace ProcessEvents

namespace Json

/- Key of the member that holds the text of an embedded value. -/
def embeddingKey : String :=
  "$serde_json::private::RawValue"

------------------------------------------------------------
-- Expansion
------------------------------------------------------------

mutual

/-
  The value with its embedded values put in place, which are
  read from their texts as told; nothing if an embedding
  holds something else, or if its text cannot be read.
-/
def expandWith
    (embedded? : String → Option Json) : Json → Option Json
  | arr items => (expandItems embedded? items).map arr
  | obj [] => some (obj [])
  | obj ((key, j) :: rest) =>
    if key = embeddingKey then
      match j, rest with
      | str text, [] => embedded? text
      | _, _ => none
    else do
      let j ← expandWith embedded? j
      let rest ← expandMembers embedded? rest
      return obj ((key, j) :: rest)
  | j => some j

def expandItems
    (embedded? : String → Option Json) : List Json → Option (List Json)
  | [] => some []
  | j :: rest => do
    let j ← expandWith embedded? j
    let rest ← expandItems embedded? rest
    return j :: rest

def expandMembers
    (embedded? : String → Option Json) :
    List (String × Json) → Option (List (String × Json))
  | [] => some []
  | (key, j) :: rest => do
    let j ← expandWith embedded? j
    let rest ← expandMembers embedded? rest
    return (key, j) :: rest

end

/-
  The value with its embedded values put in place, and the
  ones within them, up to a number of steps from text to text.
-/
def expandAt : Nat → Json → Option Json
  | 0 => expandWith fun _ => none
  | fuel + 1 => expandWith fun text => (read? text).bind (expandAt fuel)

------------------------------------------------------------
-- Lengths of texts
------------------------------------------------------------

mutual

/- Length of the longest text that is no key. -/
def longestText : Json → Nat
  | str s => s.length
  | arr items => longestTextOfItems items
  | obj members => longestTextOfMembers members
  | _ => 0

def longestTextOfItems : List Json → Nat
  | [] => 0
  | j :: rest => max (longestText j) (longestTextOfItems rest)

def longestTextOfMembers : List (String × Json) → Nat
  | [] => 0
  | (_, j) :: rest => max (longestText j) (longestTextOfMembers rest)

end

/-
  The value with all its embedded values put in place. The
  texts within a text are shorter than the text itself, so
  its length bounds the steps.
-/
def expand?
    (j : Json) : Option Json :=
  expandAt (longestText j) j

------------------------------------------------------------
-- Free values
------------------------------------------------------------

/-
  A value of any form: embedded values are in place, all of
  it is readable, and repeated keys are resolved.
-/
def free?
    (j : Json) : Option Json :=
  (expand? j).bind normal?

/- The free value of a text that holds nothing else. -/
def readFree?
    (text : String) : Option Json :=
  (read? text).bind free?

end Json

end ProcessEvents
