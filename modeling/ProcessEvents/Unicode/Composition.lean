import ProcessEvents.Unicode.CompositionTable

/-
  This file defines the composed form of texts, in which
  characters that can be written in several ways are written
  in one: marks on a character stand in the order of their
  classes, and every character is composed with as many of
  its marks as possible.

  Key definitions include:
    * `Unicode.classOf`
    * `Unicode.partsOf?`
    * `Unicode.decompose`
    * `Unicode.compositeOf?`
    * `Unicode.compose`
    * `Unicode.composed`

  Key theorems include:
    * `Unicode.Hangul.compositeOf?_partsOf?`
-/

namespace ProcessEvents

namespace Unicode

------------------------------------------------------------
-- Classes
------------------------------------------------------------

/- The class of a mark; zero for any other character. -/
def classOf
    (c : Char) : Nat :=
  ((classTable.row? c.toNat).bind fun row => row.values.head?).getD 0

------------------------------------------------------------
-- Syllables
------------------------------------------------------------

namespace Hangul

/-
  Syllables have one of nineteen letters at the beginning,
  one of twenty-one vowels, and one of twenty-seven letters
  at the end, which may be missing. They are in this order,
  those without an end first.

  The parts of a syllable are the syllable without its end
  and the letter at the end, or its first two letters.
-/
def partsOf?
    (n : Nat) : Option (Nat × Nat) :=
  if 0xAC00 ≤ n ∧ n < 0xAC00 + 11172 then
    let i := n - 0xAC00
    if i % 28 = 0 then some (0x1100 + i / 28 / 21, 0x1161 + i / 28 % 21)
    else some (n - i % 28, 0x11A7 + i % 28)
  else none

/- The syllable of two parts. -/
def compositeOf?
    (a b : Nat) : Option Nat :=
  if 0x1100 ≤ a ∧ a < 0x1100 + 19 ∧ 0x1161 ≤ b ∧ b < 0x1161 + 21 then
    some (0xAC00 + ((a - 0x1100) * 21 + (b - 0x1161)) * 28)
  else if 0xAC00 ≤ a ∧ a < 0xAC00 + 11172 ∧ (a - 0xAC00) % 28 = 0 ∧
      0x11A7 < b ∧ b < 0x11A7 + 28 then
    some (a + (b - 0x11A7))
  else none

/- A syllable is composed of its parts. -/
theorem compositeOf?_partsOf?
    {n a b : Nat}
    (h : partsOf? n = some (a, b)) :
    compositeOf? a b = some n := by
  unfold partsOf? at h
  by_cases hSyllable : 0xAC00 ≤ n ∧ n < 0xAC00 + 11172
  · rw [if_pos hSyllable] at h
    by_cases hOpen : (n - 0xAC00) % 28 = 0
    · simp only [if_pos hOpen, Option.some.injEq, Prod.mk.injEq] at h
      obtain ⟨rfl, rfl⟩ := h
      unfold compositeOf?
      rw [if_pos (by omega)]
      refine congrArg some ?_
      omega
    · simp only [if_neg hOpen, Option.some.injEq, Prod.mk.injEq] at h
      obtain ⟨rfl, rfl⟩ := h
      unfold compositeOf?
      rw [if_neg (by omega), if_pos (by omega)]
      refine congrArg some ?_
      omega
  · rw [if_neg hSyllable] at h
    cases h

end Hangul

------------------------------------------------------------
-- Decomposition
------------------------------------------------------------

/- The two parts of a composite. -/
def partsOf?
    (c : Char) : Option (Char × Char) :=
  let parts :=
    match compositeTable.row? c.toNat with
    | some { values := [a, b], .. } => some (a, b)
    | _ => Hangul.partsOf? c.toNat
  parts.map fun p => (Char.ofNat p.1, Char.ofNat p.2)

/- No character is composed in more than three steps. -/
def maxSteps : Nat := 3

/-
  The characters that a character is composed of in a number
  of steps. The second part of a composite is no composite.
-/
def decomposeChar : Nat → Char → List Char
  | 0, c => [c]
  | steps + 1, c =>
    match partsOf? c with
    | some (a, b) => decomposeChar steps a ++ [b]
    | none => [c]

/- Characters in the order of their classes; equal ones stay in order. -/
def insertByClass
    (c : Char) : List Char → List Char
  | [] => [c]
  | d :: rest =>
    if classOf d ≠ 0 ∧ classOf d < classOf c then d :: insertByClass c rest
    else c :: d :: rest

/- The marks after every character in the order of their classes. -/
def orderMarks
    (cs : List Char) : List Char :=
  cs.foldr
    (fun c rest => if classOf c = 0 then c :: rest else insertByClass c rest) []

/- A text without composites, with ordered marks. -/
def decompose
    (cs : List Char) : List Char :=
  orderMarks (cs.flatMap (decomposeChar maxSteps))

------------------------------------------------------------
-- Composition
------------------------------------------------------------

/- The composite of two characters. -/
def compositeOf?
    (a b : Char) : Option Char :=
  let composite :=
    match compositeTable.rows.find? fun row =>
      row.values == [a.toNat, b.toNat] with
    | some row => some row.first
    | none => Hangul.compositeOf? a.toNat b.toNat
  composite.map Char.ofNat

/-
  A character that goes on being composed, and what has been
  read after it and stays apart, the last one first.
-/
structure Composing where
  base : Char
  apart : List Char
  deriving DecidableEq, Repr

/- Everything that has been read, in its order. -/
def Composing.finish
    (p : Composing) : List Char :=
  p.base :: p.apart.reverse

/-
  Whether a character can reach the one that is composed:
  what stays apart in between has to be of a lower class.
-/
def Composing.reaches
    (p : Composing)
    (c : Char) : Bool :=
  match p.apart with
  | [] => true
  | d :: _ => classOf d < classOf c

/- Compose the rest of a text. -/
def composeFrom
    (p : Composing) : List Char → List Char
  | [] => p.finish
  | c :: rest =>
    match (compositeOf? p.base c).filter fun _ => p.reaches c with
    | some composite => composeFrom { p with base := composite } rest
    | none =>
      if classOf c = 0 then p.finish ++ composeFrom ⟨c, []⟩ rest
      else composeFrom { p with apart := c :: p.apart } rest

/- Compose an ordered text. Marks in front have nothing to be composed with. -/
def compose : List Char → List Char
  | [] => []
  | c :: rest =>
    if classOf c = 0 then composeFrom ⟨c, []⟩ rest
    else c :: compose rest

/- The composed form of a text. -/
def composed
    (cs : List Char) : List Char :=
  compose (decompose cs)

end Unicode

end ProcessEvents
