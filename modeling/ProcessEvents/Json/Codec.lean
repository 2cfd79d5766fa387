import ProcessEvents.Json.Embedding

/-
  This file defines codecs: a reader and a writer of one type
  as JSON values. Records are described once, as a list of
  fields in declaration order, from which both directions
  follow.

  A closed record skips members that it does not know, and
  may also be given as an array of its fields. An open record
  collects the members that it does not know, and is given as
  an object only. In both a known key must not be repeated.

  Key definitions include:
    * `Codec`
    * `Codec.string`, `Codec.bool`, `Codec.int`, `Codec.free`
    * `Codec.list`, `Codec.dict`, `Codec.option`
    * `Fields`
    * `Fields.field`, `Fields.required`, `Fields.omitting`
    * `Fields.pair`
    * `Codec.record`
    * `Codec.openRecord`
-/

namespace ProcessEvents

/- A reader and a writer of one type as JSON values. -/
structure Codec (α : Type) where
  decode : Json → Option α
  encode : α → Json

namespace Codec

variable {α β : Type}

------------------------------------------------------------
-- Single values
------------------------------------------------------------

/- Texts. -/
def string : Codec String where
  decode
    | .str s => some s
    | _ => none
  encode := .str

/- Truth values. -/
def bool : Codec Bool where
  decode
    | .bool b => some b
    | _ => none
  encode := .bool

/- Integers within bounds; a double is no integer. -/
def int
    (low high : Int) : Codec Int where
  decode
    | .int n => if low ≤ n ∧ n ≤ high then some n else none
    | _ => none
  encode := .int

/- Integers of 64 bits. -/
def int64 : Codec Int :=
  int (-0x8000000000000000) 0x7FFFFFFFFFFFFFFF

/- Integers of 32 bits. -/
def int32 : Codec Int :=
  int (-0x80000000) 0x7FFFFFFF

/- Free values: whatever can be read, with embedded values in place. -/
def free : Codec Json where
  decode := Json.free?
  encode := id

/- Values that are written in another form, which not every text has. -/
def refine
    (c : Codec α)
    (make : α → Option β)
    (of : β → α) : Codec β where
  decode j := (c.decode j).bind make
  encode x := c.encode (of x)

------------------------------------------------------------
-- Containers
------------------------------------------------------------

/- Arrays. -/
def list
    (c : Codec α) : Codec (List α) where
  decode
    | .arr items => items.mapM c.decode
    | _ => none
  encode xs := .arr (xs.map c.encode)

/- Decode the value of every member. -/
def decodeMembers
    (c : Codec α)
    (members : List (String × Json)) : Option (List (String × α)) :=
  members.mapM fun m => (c.decode m.2).map fun x => (m.1, x)

/- Encode the value of every entry. -/
def encodeEntries
    (c : Codec α)
    (entries : List (String × α)) : List (String × Json) :=
  entries.map fun e => (e.1, c.encode e.2)

/- Objects with any keys; of equal keys the last one counts. -/
def dict
    (c : Codec α) : Codec (Dict α) where
  decode
    | .obj members => (decodeMembers c members).map Dict.ofList
    | _ => none
  encode d := .obj (encodeEntries c d.entries)

/- Values that may be `null`. -/
def option
    (c : Codec α) : Codec (Option α) where
  decode
    | .null => some none
    | j => (c.decode j).map some
  encode
    | none => .null
    | some x => c.encode x

end Codec

------------------------------------------------------------
-- Fields of records
------------------------------------------------------------

/-
  A group of fields in declaration order: their names, how
  they are read from the members of an object and from the
  items of an array, and how they are written as members.
-/
structure Fields (α : Type) where
  names : List String
  ofMembers : (String → Option Json) → Option α
  ofItems : List Json → Option (α × List Json)
  toMembers : α → List (String × Json)

namespace Fields

variable {α β : Type}

/- One field; a missing one takes its default. -/
def field
    (name : String)
    (c : Codec α)
    (dflt : α) : Fields α where
  names := [name]
  ofMembers find :=
    match find name with
    | none => some dflt
    | some j => c.decode j
  ofItems
    | [] => some (dflt, [])
    | j :: rest => (c.decode j).map (·, rest)
  toMembers x := [(name, c.encode x)]

/- One field that must be there. -/
def required
    (name : String)
    (c : Codec α) : Fields α where
  names := [name]
  ofMembers find := (find name).bind c.decode
  ofItems
    | [] => none
    | j :: rest => (c.decode j).map (·, rest)
  toMembers x := [(name, c.encode x)]

/- A field whose values in `omitted` are left out when it is written. -/
def omitting
    (omitted : α → Bool)
    (f : Fields α) : Fields α :=
  { f with toMembers := fun x => if omitted x then [] else f.toMembers x }

/- Two groups of fields, one after the other. -/
def pair
    (f : Fields α)
    (g : Fields β) : Fields (α × β) where
  names := f.names ++ g.names
  ofMembers find := do
    let x ← f.ofMembers find
    let y ← g.ofMembers find
    return (x, y)
  ofItems items := do
    let (x, items) ← f.ofItems items
    let (y, items) ← g.ofItems items
    return ((x, y), items)
  toMembers p := f.toMembers p.1 ++ g.toMembers p.2

/- A text that is empty by default. -/
def text
    (name : String) : Fields String :=
  field name Codec.string ""

/- A flag that is off by default. -/
def flag
    (name : String) : Fields Bool :=
  field name Codec.bool false

/- A value that may be missing or `null`. -/
def optional
    (name : String)
    (c : Codec α) : Fields (Option α) :=
  field name (Codec.option c) none

/- A value that is left out while it is missing. -/
def present
    (name : String)
    (c : Codec α) : Fields (Option α) :=
  (optional name c).omitting Option.isNone

/- A list that is empty by default. -/
def items
    (name : String)
    (c : Codec α) : Fields (List α) :=
  field name (Codec.list c) []

end Fields

------------------------------------------------------------
-- Records
------------------------------------------------------------

namespace Codec

variable {α β : Type}

/- Whether one of the names is the key of several members. -/
def repeats
    (names : List String)
    (members : List (String × Json)) : Bool :=
  names.any fun n => 1 < Json.occurrences members n

/- A closed record. -/
def record
    (f : Fields α)
    (make : α → β)
    (of : β → α) : Codec β where
  decode
    | .obj members =>
      if repeats f.names members then none
      else (f.ofMembers (Json.find? members)).map make
    | .arr items =>
      match f.ofItems items with
      | some (x, []) => some (make x)
      | _ => none
    | _ => none
  encode x := .obj (f.toMembers (of x))

/- The members that are none of the names. -/
def others
    (names : List String)
    (members : List (String × Json)) : List (String × Json) :=
  members.filter fun m => !names.contains m.1

/- An open record, with the members that it does not know. -/
def openRecord
    (f : Fields α)
    (make : α → Dict Json → β)
    (of : β → α × Dict Json) : Codec β where
  decode
    | .obj members =>
      if repeats f.names members then none
      else do
        let x ← f.ofMembers (Json.find? members)
        let rest ← decodeMembers free (others f.names members)
        return make x (Dict.ofList rest)
    | _ => none
  encode x :=
    .obj (f.toMembers (of x).1 ++ encodeEntries free (of x).2.entries)

end Codec

end ProcessEvents
