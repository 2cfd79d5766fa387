/-
  This file defines the bracket expressions of topic
  patterns, such as `[^a-z_[:digit:]]`, as far as it takes
  to tell the well-formed ones and where they end. A
  character stands for a single byte.

  Key definitions include:
    * `TopicPattern.BracketElement`
    * `TopicPattern.readElement`
    * `TopicPattern.readStart`
    * `TopicPattern.readElements`
    * `TopicPattern.readBracket`
-/

namespace ProcessEvents

namespace TopicPattern

------------------------------------------------------------
-- Elements
------------------------------------------------------------

/-
  One element of a bracket: a byte, which may bound a range,
  or a set of bytes that has a name.
-/
inductive BracketElement where
  | byte (c : Char)
  | named
  deriving DecidableEq, Repr

/- The sets that have a name. -/
def setNames : List String :=
  ["alnum", "alpha", "blank", "cntrl", "digit", "graph", "lower", "print",
    "punct", "space", "upper", "xdigit"]

/- A name up to its closing mark, and what follows it. -/
def readName
    (mark : Char) : List Char → Option (List Char × List Char)
  | [] => none
  | c :: rest =>
    match c == mark, rest with
    | true, ']' :: rest => some ([], rest)
    | _, _ => (readName mark rest).map fun (name, rest) => (c :: name, rest)

/-
  One element, and what follows it. Within `[.` and `.]`, and
  within `[=` and `=]`, stands a single byte, and within `[:`
  and `:]` the name of a set.
-/
def readElement : List Char → Option (BracketElement × List Char)
  | '[' :: '.' :: rest =>
    match readName '.' rest with
    | some ([c], rest) => some (.byte c, rest)
    | _ => none
  | '[' :: '=' :: rest =>
    match readName '=' rest with
    | some ([_], rest) => some (.named, rest)
    | _ => none
  | '[' :: ':' :: rest =>
    match readName ':' rest with
    | some (name, rest) =>
      if setNames.contains (String.ofList name) then some (.named, rest)
      else none
    | none => none
  | c :: rest => some (.byte c, rest)
  | [] => none

/-
  The element at the start of a range or on its own. A minus
  stands there only if it is the first or the last element.
-/
def readStart
    (isFirst : Bool) : List Char → Option (BracketElement × List Char)
  | '-' :: ']' :: rest => some (.byte '-', ']' :: rest)
  | '-' :: rest => if isFirst then some (.byte '-', rest) else none
  | cs => readElement cs

/-
  What follows the end of a range, which must be a byte that
  is not less than the first one.
-/
def afterRange
    (low : Char)
    (cs : List Char) : Option (List Char) :=
  match readElement cs with
  | some (.byte high, rest) => if low ≤ high then some rest else none
  | _ => none

/-
  What follows an element and, if a minus stands behind it,
  the rest of its range.
-/
def afterElement : BracketElement → List Char → Option (List Char)
  | .byte _, '-' :: ']' :: rest => some ('-' :: ']' :: rest)
  | .byte low, '-' :: rest => afterRange low rest
  | _, rest => some rest

------------------------------------------------------------
-- Brackets
------------------------------------------------------------

/-
  What follows the elements of a bracket and its end. The
  first element may be a closing bracket. Every step uses up
  a character.
-/
def readElements : Nat → Bool → List Char → Option (List Char)
  | 0, _, _ => none
  | fuel + 1, isFirst, cs => do
    let (element, rest) ← readStart isFirst cs
    match ← afterElement element rest with
    | ']' :: rest => some rest
    | rest => readElements fuel false rest

/- What follows a bracket, after its opening. -/
def readBracket : List Char → Option (List Char)
  | '^' :: rest => readElements (rest.length + 1) true rest
  | cs => readElements (cs.length + 1) true cs

end TopicPattern

end ProcessEvents
