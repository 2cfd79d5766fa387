import ProcessEvents.TopicPattern.Bracket

/-
  This file defines the tokens of topic patterns. Bounded
  repetitions and bracket expressions are single tokens.

  Key definitions include:
    * `TopicPattern.Token`
    * `TopicPattern.readInterval`
    * `TopicPattern.tokens?`
-/

namespace ProcessEvents

namespace TopicPattern

/- One token of a pattern. -/
inductive Token where
  | atom
  | reference (group : Nat)
  | anchor
  | repetition
  | opening
  | closing
  | alternative
  deriving DecidableEq, Repr

------------------------------------------------------------
-- Bounded repetitions
------------------------------------------------------------

/- Most repetitions that can be asked for. -/
def maxRepetitions : Nat :=
  32767

/- One more decimal digit of a bound. -/
def withDigit
    (bound : Option Nat)
    (digit : Char) : Option Nat :=
  some (10 * bound.getD 0 + (digit.toNat - '0'.toNat))

/-
  A bound, whether the interval ends with it, and what
  follows. A comma and the digit zero may be escaped.
-/
def readBound
    (bound : Option Nat) : List Char → Option (Option Nat × Bool × List Char)
  | '}' :: rest => some (bound, true, rest)
  | ',' :: rest => some (bound, false, rest)
  | '\\' :: ',' :: rest => some (bound, false, rest)
  | '\\' :: '0' :: rest => readBound (withDigit bound '0') rest
  | c :: rest =>
    if c.isDigit then readBound (withDigit bound c) rest else none
  | [] => none

/-
  What follows an interval, after its opening brace. A single
  bound must be there; of two bounds each may be missing.
-/
def readInterval
    (cs : List Char) : Option (List Char) := do
  let (low, isSingle, rest) ← readBound none cs
  if isSingle then
    guard (low.any (· ≤ maxRepetitions))
    return rest
  else
    let (high, isLast, rest) ← readBound none rest
    guard isLast
    let high := high.getD maxRepetitions
    guard (low.getD 0 ≤ high && high ≤ maxRepetitions)
    return rest

------------------------------------------------------------
-- Tokens
------------------------------------------------------------

/-
  The token of an escaped character: a digit refers to a
  group, some characters are anchors at the bounds of words
  and of the text, and all others match on their own.
-/
def escaped
    (c : Char) : Token :=
  if '1' ≤ c ∧ c ≤ '9' then .reference (c.toNat - '0'.toNat)
  else if "<>bB`'".toList.contains c then .anchor
  else .atom

/- The token of a character on its own. -/
def plain : Char → Token
  | '^' => .anchor
  | '$' => .anchor
  | '*' => .repetition
  | '+' => .repetition
  | '?' => .repetition
  | '(' => .opening
  | ')' => .closing
  | '|' => .alternative
  | _ => .atom

/-
  The token in front of a pattern, and what follows it. A
  backslash at the end escapes nothing.
-/
def readToken? : List Char → Option (Token × List Char)
  | [] => none
  | '\\' :: rest =>
    match rest with
    | [] => none
    | c :: rest => some (escaped c, rest)
  | '[' :: rest => (readBracket rest).map (.atom, ·)
  | '{' :: rest => (readInterval rest).map (.repetition, ·)
  | c :: rest => some (plain c, rest)

/- The tokens of a pattern; every step uses up a character. -/
def readTokens? : Nat → List Char → Option (List Token)
  | _, [] => some []
  | 0, _ => none
  | fuel + 1, cs => do
    let (token, rest) ← readToken? cs
    let tokens ← readTokens? fuel rest
    return token :: tokens

/- The tokens of a pattern. -/
def tokens?
    (cs : List Char) : Option (List Token) :=
  readTokens? cs.length cs

end TopicPattern

end ProcessEvents
