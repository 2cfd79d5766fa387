import ProcessEvents.Json.Reader
import ProcessEvents.Utf8

/-
  This file defines the reader of JSON texts that are given
  by their bytes. Bytes that encode no character may stand
  within skipped texts only, like an unpaired surrogate
  escape, and are read as one.

  Key definitions include:
    * `Json.maskGaps`
    * `Json.readBytes?`
-/

namespace ProcessEvents

namespace Json

/-
  Two escapes that stand for no character. Both are second
  halves of a pair: whatever stands in front or behind, no
  pair is formed.
-/
def unpairedEscapes : List Char :=
  ['\\', 'u', 'd', 'c', '0', '0', '\\', 'u', 'd', 'c', '0', '0']

/-
  Characters with unpaired escapes in every gap. The flag
  tells that a backslash stands in front: no escape goes on
  with a gap, nor with the control character put there.
-/
def maskGaps
    (escaped : Bool) : List (Option Char) → List Char
  | [] => []
  | some c :: rest => c :: maskGaps (c == '\\' && !escaped) rest
  | none :: rest =>
    if escaped then '\x00' :: maskGaps false rest
    else unpairedEscapes ++ maskGaps false rest

/- The value of bytes that hold nothing else. -/
def readBytes?
    (bytes : List UInt8) : Option Json :=
  readChars? (maskGaps false (Utf8.units bytes))

end Json

end ProcessEvents
