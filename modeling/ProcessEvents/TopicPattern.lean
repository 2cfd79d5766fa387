import ProcessEvents.TopicPattern.Token
import ProcessEvents.Utf8

/-
  This file defines which topic patterns are well formed. A
  pattern consists of alternatives and groups, and whatever
  matches in it may be repeated. References go to groups that
  are closed before them within the same alternatives.

  Key definitions include:
    * `TopicPattern.Scope`
    * `TopicPattern.isSound`
    * `TopicPattern.isWellFormed`
-/

namespace ProcessEvents

namespace TopicPattern

------------------------------------------------------------
-- Groups
------------------------------------------------------------

/-
  The groups that are closed where a pattern is read: those
  before the present alternatives, those within the present
  one too, and those of the alternatives before it.
-/
structure Scope where
  before : List Nat := []
  closed : List Nat := []
  others : List Nat := []
  deriving DecidableEq, Repr

namespace Scope

/- The scope at the start of a group. -/
def inner
    (s : Scope) : Scope :=
  { before := s.closed, closed := s.closed }

/- The scope at the start of the next alternative. -/
def next
    (s : Scope) : Scope :=
  { s with closed := s.before, others := s.closed ++ s.others }

/- The scope after a group with its number and its last scope. -/
def after
    (s : Scope)
    (group : Nat)
    (last : Scope) : Scope :=
  { s with closed := group :: (last.closed ++ last.others) }

end Scope

------------------------------------------------------------
-- Soundness
------------------------------------------------------------

/-
  Whether tokens form a pattern. The first argument counts
  the groups so far, the second one tells whether something
  that can be repeated stands in front, and the last ones are
  the scope, and the open groups with the scopes around them.
  A closing without an opening stands for itself.
-/
def isSound
    (count : Nat)
    (repeatable : Bool)
    (scope : Scope)
    (outer : List (Nat × Scope)) : List Token → Bool
  | [] => outer.isEmpty
  | .atom :: rest => isSound count true scope outer rest
  | .reference group :: rest =>
    scope.closed.contains group && isSound count true scope outer rest
  | .anchor :: rest => isSound count false scope outer rest
  | .repetition :: rest => repeatable && isSound count true scope outer rest
  | .opening :: rest =>
    isSound (count + 1) false scope.inner ((count + 1, scope) :: outer) rest
  | .closing :: rest =>
    match outer with
    | [] => isSound count true scope [] rest
    | (group, around) :: outer =>
      isSound count true (around.after group scope) outer rest
  | .alternative :: rest => isSound count false scope.next outer rest

/-
  Whether a text is a pattern. It is read byte by byte: a
  character stands for the byte with its number.
-/
def isWellFormed
    (text : String) : Bool :=
  let bytes := (Utf8.encode text.toList).map fun b => Char.ofNat b.toNat
  (tokens? bytes).any (isSound 0 false {} [])

end TopicPattern

end ProcessEvents
