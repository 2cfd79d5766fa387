/-
  This file defines operations on texts as lists of
  characters: white space, cutting at both ends, and parts
  between separators.

  Key definitions include:
    * `Text.isWhiteSpace`
    * `Text.dropEndWhile`
    * `Text.trim`
    * `Text.stripPrefix?`
    * `Text.parts`
    * `Text.decimal`
-/

namespace ProcessEvents

namespace Text

------------------------------------------------------------
-- White space
------------------------------------------------------------

/- The characters with the property of white space. -/
def isWhiteSpace
    (c : Char) : Bool :=
  let n := c.toNat
  (0x09 ≤ n && n ≤ 0x0D) || n == 0x20 || n == 0x85 || n == 0xA0 ||
    n == 0x1680 || (0x2000 ≤ n && n ≤ 0x200A) || n == 0x2028 || n == 0x2029 ||
    n == 0x202F || n == 0x205F || n == 0x3000

------------------------------------------------------------
-- Ends
------------------------------------------------------------

/- Drop characters at the end. -/
def dropEndWhile
    (p : Char → Bool)
    (cs : List Char) : List Char :=
  (cs.reverse.dropWhile p).reverse

/- Drop white space at both ends. -/
def trim
    (cs : List Char) : List Char :=
  dropEndWhile isWhiteSpace (cs.dropWhile isWhiteSpace)

/- What follows a given start. -/
def stripPrefix? : List Char → List Char → Option (List Char)
  | [], cs => some cs
  | _ :: _, [] => none
  | p :: ps, c :: cs => if p = c then stripPrefix? ps cs else none

------------------------------------------------------------
-- Parts
------------------------------------------------------------

/-
  The parts between separators, of which there is one more
  than there are separators.
-/
def parts
    (separator : Char) : List Char → List (List Char)
  | [] => [[]]
  | c :: rest =>
    if c = separator then [] :: parts separator rest
    else
      match parts separator rest with
      | part :: more => (c :: part) :: more
      | [] => [[c]]

/- There is at least one part. -/
theorem parts_ne_nil
    (separator : Char) (cs : List Char) :
    parts separator cs ≠ [] := by
  cases cs with
  | nil => simp [parts]
  | cons c rest =>
    simp only [parts]
    split
    · simp
    · split <;> simp

/- What stands before and after the first separator, if there is one. -/
def splitFirst
    (separator : Char)
    (cs : List Char) : List Char × Option (List Char) :=
  match cs.span (· ≠ separator) with
  | (before, []) => (before, none)
  | (before, _ :: after) => (before, some after)

------------------------------------------------------------
-- Numbers
------------------------------------------------------------

/- The decimal digits of a number. -/
def decimal
    (n : Nat) : String :=
  String.ofList (Nat.toDigits 10 n)

end Text

end ProcessEvents
