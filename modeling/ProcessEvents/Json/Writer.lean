import ProcessEvents.Json.Value
import ProcessEvents.Number.Hex
import ProcessEvents.Number.Shortest

/-
  This file defines the compact text of JSON values: no
  blanks, members in their order, every character as itself
  except quotes, backslashes and control characters.

  Key definitions include:
    * `Json.escape`
    * `Json.quote`
    * `Json.render`
    * `Json.toText`
-/

namespace ProcessEvents

namespace Json

------------------------------------------------------------
-- Texts
------------------------------------------------------------

/-
  A character within quotes. Five control characters have a
  letter of their own, the others are written in four
  hexadecimal digits.
-/
def escape
    (c : Char) : List Char :=
  match c with
  | '"' => ['\\', '"']
  | '\\' => ['\\', '\\']
  | '\x08' => ['\\', 'b']
  | '\x0c' => ['\\', 'f']
  | '\n' => ['\\', 'n']
  | '\r' => ['\\', 'r']
  | '\t' => ['\\', 't']
  | c =>
    if c.toNat < 32 then
      ['\\', 'u', '0', '0', Hex.digit (c.toNat / 16), Hex.digit (c.toNat % 16)]
    else [c]

/- A text in quotes. -/
def quote
    (s : String) : List Char :=
  '"' :: (s.toList.flatMap escape ++ ['"'])

------------------------------------------------------------
-- Values
------------------------------------------------------------

/- Decimal digits of an integer, with a sign if it is negative. -/
def renderInt : Int → List Char
  | .ofNat n => Nat.toDigits 10 n
  | .negSucc n => '-' :: Nat.toDigits 10 (n + 1)

mutual

/- The compact text of a value. -/
def render : Json → List Char
  | null => ['n', 'u', 'l', 'l']
  | bool true => ['t', 'r', 'u', 'e']
  | bool false => ['f', 'a', 'l', 's', 'e']
  | int n => renderInt n
  | double x => x.toText
  | str s => quote s
  | arr [] => ['[', ']']
  | arr (j :: rest) => '[' :: (render j ++ renderItems rest)
  | obj [] => ['{', '}']
  | obj ((k, j) :: rest) =>
    '{' :: (quote k ++ ':' :: (render j ++ renderMembers rest))
  | unreadable => []

/- The items after the first one, and the closing bracket. -/
def renderItems : List Json → List Char
  | [] => [']']
  | j :: rest => ',' :: (render j ++ renderItems rest)

/- The members after the first one, and the closing brace. -/
def renderMembers : List (String × Json) → List Char
  | [] => ['}']
  | (k, j) :: rest =>
    ',' :: (quote k ++ ':' :: (render j ++ renderMembers rest))

end

/- The compact text of a value. -/
def toText
    (j : Json) : String :=
  String.ofList (render j)

end Json

end ProcessEvents
