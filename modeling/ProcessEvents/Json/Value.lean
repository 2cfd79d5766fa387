import ProcessEvents.Dict
import ProcessEvents.Number.Binary64

/-
  This file defines JSON values as they are read from a text.
  Objects keep their members in reading order, repeated keys
  included. A token that is well formed but stands for no
  value is kept as `unreadable`: it may be skipped, but
  nothing can be decoded from it.

  Key definitions include:
    * `Json`
    * `Json.isReadable`
    * `Json.normal?`
    * `Json.depth`
    * `Json.find?`
-/

namespace ProcessEvents

------------------------------------------------------------
-- Values
------------------------------------------------------------

/-
  A JSON value. `unreadable` stands for a number beyond the
  double range, a text with an unpaired surrogate escape, or
  a value that is nested too deep.
-/
inductive Json where
  | null
  | bool (b : Bool)
  | int (n : Int)
  | double (x : Binary64)
  | str (s : String)
  | arr (items : List Json)
  | obj (members : List (String × Json))
  | unreadable
  deriving Inhabited, Repr

namespace Json

------------------------------------------------------------
-- Members
------------------------------------------------------------

/- The first member with a key. -/
def find?
    (members : List (String × Json))
    (key : String) : Option Json :=
  (members.find? (fun m => m.1 == key)).map (·.2)

/- How often a key occurs. -/
def occurrences
    (members : List (String × Json))
    (key : String) : Nat :=
  members.countP (fun m => m.1 == key)

------------------------------------------------------------
-- Free values
------------------------------------------------------------

mutual

/-
  The value itself, with the members of every object in
  ascending order of their keys and the last one of equal
  keys kept; nothing if some part is unreadable.
-/
def normal? : Json → Option Json
  | null => some null
  | bool b => some (bool b)
  | int n => some (int n)
  | double x => some (double x)
  | str s => some (str s)
  | arr items => (normalItems? items).map arr
  | obj members =>
    (normalMembers? members).map fun ms => obj (Dict.ofList ms).entries
  | unreadable => none

def normalItems? : List Json → Option (List Json)
  | [] => some []
  | j :: rest => do
    let j ← normal? j
    let rest ← normalItems? rest
    return j :: rest

def normalMembers? : List (String × Json) → Option (List (String × Json))
  | [] => some []
  | (k, j) :: rest => do
    let j ← normal? j
    let rest ← normalMembers? rest
    return (k, j) :: rest

end

/- Whether every part of the value can be read. -/
def isReadable
    (j : Json) : Bool :=
  j.normal?.isSome

------------------------------------------------------------
-- Nesting
------------------------------------------------------------

mutual

/- How deep arrays and objects are nested. -/
def depth : Json → Nat
  | arr items => depthItems items + 1
  | obj members => depthMembers members + 1
  | _ => 0

def depthItems : List Json → Nat
  | [] => 0
  | j :: rest => max (depth j) (depthItems rest)

def depthMembers : List (String × Json) → Nat
  | [] => 0
  | (_, j) :: rest => max (depth j) (depthMembers rest)

end

end Json

end ProcessEvents
