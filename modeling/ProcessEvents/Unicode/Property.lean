import ProcessEvents.Unicode.PropertyTable

/-
  This file defines properties of characters: the direction
  that they are written in, how letters join with their
  neighbours, and marks.

  Key definitions include:
    * `Unicode.Direction`
    * `Unicode.Direction.ofChar`
    * `Unicode.isMark`, `Unicode.isVirama`
    * `Unicode.joinsFollowing`, `Unicode.joinsPreceding`
-/

namespace ProcessEvents

namespace Unicode

------------------------------------------------------------
-- Direction
------------------------------------------------------------

/- How a character takes part in the direction of a text. -/
inductive Direction where
  | leftToRight
  | rightToLeft
  | arabicNumber
  | europeanNumber
  | neutral
  | nonspacing
  deriving DecidableEq, Repr

/- The direction of a character that may be used in names. -/
def Direction.ofChar
    (c : Char) : Direction :=
  if rightToLeftTable.contains c then rightToLeft
  else if arabicNumberTable.contains c then arabicNumber
  else if europeanNumberTable.contains c then europeanNumber
  else if neutralTable.contains c then neutral
  else if nonspacingTable.contains c then nonspacing
  else leftToRight

------------------------------------------------------------
-- Marks
------------------------------------------------------------

/- Whether a character is a mark on the one in front of it. -/
def isMark
    (c : Char) : Bool :=
  markTable.contains c

/- Whether a character takes the vowel of the one in front of it away. -/
def isVirama
    (c : Char) : Bool :=
  viramaTable.contains c

------------------------------------------------------------
-- Joining
------------------------------------------------------------

/- Whether a letter joins with the one that follows it. -/
def joinsFollowing
    (c : Char) : Bool :=
  dualJoiningTable.contains c || leftJoiningTable.contains c

/- Whether a letter joins with the one that precedes it. -/
def joinsPreceding
    (c : Char) : Bool :=
  dualJoiningTable.contains c || rightJoiningTable.contains c

/- Whether two letters join as if a character did not stand between them. -/
def isTransparent
    (c : Char) : Bool :=
  transparentTable.contains c

end Unicode

end ProcessEvents
