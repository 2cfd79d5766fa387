import ProcessEvents.Number.Hex
import ProcessEvents.Text

/-
  This file defines tables of characters. A table has rows,
  which each say something of a range of code points; the
  rows ascend and do not overlap.

  A row is written as a word: its first and its last code
  point with a hyphen between them, or the one code point of
  the row, then a mark, and numbers with commas between them.
  Mark and numbers may be missing, and every number is
  hexadecimal.

  Key definitions include:
    * `Unicode.Row`
    * `Unicode.Row.ofWord?`
    * `Unicode.Table`
    * `Unicode.Table.ofLines`
    * `Unicode.Table.row?`
    * `Unicode.Table.contains`
-/

namespace ProcessEvents

namespace Unicode

------------------------------------------------------------
-- Rows
------------------------------------------------------------

/- What is said of a range of code points. -/
structure Row where
  first : Nat
  last : Nat
  mark : Option Char := none
  values : List Nat := []
  deriving DecidableEq, Repr

namespace Row

/- The characters in front of the mark of a word. -/
def isRangeChar
    (c : Char) : Bool :=
  c == '-' || (Hex.value? c).isSome

/- The row of a word. -/
def ofWord?
    (cs : List Char) : Option Row := do
  let (range, rest) := cs.span isRangeChar
  let (low, high) := Text.splitFirst '-' range
  let first ← Hex.number? low
  let last ← Hex.number? (high.getD low)
  match rest with
  | [] => return { first, last }
  | mark :: [] => return { first, last, mark := some mark }
  | mark :: cs =>
    let values ← (Text.parts ',' cs).mapM Hex.number?
    return { first, last, mark := some mark, values }

end Row

------------------------------------------------------------
-- Tables
------------------------------------------------------------

/- Rows in ascending order. -/
structure Table where
  rows : Array Row
  deriving DecidableEq, Repr

namespace Table

/- The rows of a line of words. -/
def readLine
    (line : String) : List Row :=
  (Text.parts ' ' line.toList).filterMap Row.ofWord?

/- The table that is written in lines. -/
def ofLines
    (lines : List String) : Table :=
  ⟨(lines.flatMap readLine).toArray⟩

/-
  How many rows begin at or before a code point, if at least
  `low` and at most `high` of them do.
-/
def countUpTo
    (t : Table)
    (n low high : Nat) : Nat :=
  if low < high then
    let middle := (low + high) / 2
    match t.rows[middle]? with
    | some row =>
      if row.first ≤ n then t.countUpTo n (middle + 1) high
      else t.countUpTo n low middle
    | none => low
  else low
termination_by high - low
decreasing_by all_goals omega

/- The row that a code point is in. -/
def row?
    (t : Table)
    (n : Nat) : Option Row :=
  match t.countUpTo n 0 t.rows.size with
  | 0 => none
  | k + 1 => t.rows[k]?.filter fun row => n ≤ row.last

/- Whether a table has a row for a character. -/
def contains
    (t : Table)
    (c : Char) : Bool :=
  (t.row? c.toNat).isSome

end Table

end Unicode

end ProcessEvents
