import ProcessEvents.Unicode.Composition
import ProcessEvents.Unicode.MappingTable

/-
  This file defines what texts are taken for as domain names:
  letters are folded to one case, variants of characters are
  replaced, characters without a meaning are left out, and
  the rest is composed.

  Key definitions include:
    * `Unicode.mapping?`
    * `Unicode.mapped?`
-/

namespace ProcessEvents

namespace Unicode

/- What a row of the table maps a code point to. -/
def Row.target?
    (row : Row)
    (n : Nat) : Option (List Nat) :=
  let i := n - row.first
  match row.mark, row.values with
  | some '>', [target] => some [target + i]
  | some '=', targets => some targets
  | some '/', [] => some [if i % 2 = 0 then n + 1 else n]
  | some '!', [] => some []
  | _, _ => none

/- What a character is taken for; nothing if it may not be used. -/
def mapping?
    (c : Char) : Option (List Char) :=
  match mappingTable.row? c.toNat with
  | some row => (row.target? c.toNat).map fun targets => targets.map Char.ofNat
  | none => some [c]

/- What a text is taken for, in its composed form. -/
def mapped?
    (cs : List Char) : Option (List Char) :=
  (cs.mapM mapping?).map fun targets => composed targets.flatten

end Unicode

end ProcessEvents
