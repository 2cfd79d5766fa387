import ProcessEvents.Number.Hex
import ProcessEvents.Text

/-
  This file defines the numeric addresses of hosts: four
  bytes that may be written as fewer numbers in several
  bases, and eight pieces of sixteen bits of which one run
  of zeros may be left out.

  Key definitions include:
    * `Ipv4.endsInNumber`
    * `Ipv4.parse?`, `Ipv4.toText`
    * `Ipv6.parse?`, `Ipv6.toText`
-/

namespace ProcessEvents

------------------------------------------------------------
-- Four bytes
------------------------------------------------------------

namespace Ipv4

/- Value of a digit that is below a base. -/
def digit?
    (base : Nat)
    (c : Char) : Option Nat :=
  (Hex.value? c).filter (· < base)

/- Value of digits in a base; no digits are zero. -/
def numberIn?
    (base : Nat)
    (ds : List Char) : Option Nat :=
  ds.foldlM (fun n d => (digit? base d).map (base * n + ·)) 0

/-
  A number: hexadecimal behind `0x`, octal behind a zero,
  and decimal otherwise.
-/
def number? : List Char → Option Nat
  | [] => none
  | '0' :: 'x' :: ds => numberIn? 16 ds
  | '0' :: 'X' :: ds => numberIn? 16 ds
  | '0' :: d :: ds => numberIn? 8 (d :: ds)
  | ds => numberIn? 10 ds

/- The parts between dots, without an empty last one. -/
def partsOf
    (cs : List Char) : List (List Char) :=
  let parts := Text.parts '.' cs
  if parts.getLast? = some [] then parts.dropLast else parts

/- Whether a host has to be an address, because its last part is a number. -/
def endsInNumber
    (cs : List Char) : Bool :=
  match (partsOf cs).getLast? with
  | none => false
  | some last =>
    (!last.isEmpty && last.all Char.isDigit) || (number? last).isSome

/-
  The address of up to four numbers. All but the last one
  are bytes; the last one fills the bytes that remain.
-/
def ofNumbers?
    (ns : List Nat) : Option Nat := do
  let last ← ns.getLast?
  let bytes := ns.dropLast
  guard (bytes.length ≤ 3)
  guard (bytes.all (· < 256))
  guard (last < Nat.pow 256 (4 - bytes.length))
  return (bytes.foldl (fun n b => 256 * n + b) 0) *
    Nat.pow 256 (4 - bytes.length) + last

/- The address that a text stands for. -/
def parse?
    (cs : List Char) : Option Nat :=
  ((partsOf cs).mapM number?).bind ofNumbers?

/- Four bytes between dots. -/
def toText
    (n : Nat) : String :=
  String.intercalate "."
    ([n / 0x1000000 % 256, n / 0x10000 % 256, n / 0x100 % 256, n % 256].map
      Text.decimal)

end Ipv4

------------------------------------------------------------
-- Eight pieces
------------------------------------------------------------

namespace Ipv6

/- One piece: up to four digits. -/
def piece?
    (ds : List Char) : Option Nat :=
  if ds.isEmpty || 4 < ds.length then none else Hex.number? ds

/- One byte: decimal digits without a zero in front. -/
def byte?
    (ds : List Char) : Option Nat := do
  guard (!ds.isEmpty && (ds.length = 1 || ds.head? != some '0'))
  (Ipv4.numberIn? 10 ds).filter (· < 256)

/- Two pieces written as four bytes. -/
def bytes?
    (ds : List Char) : Option (List Nat) :=
  match (Text.parts '.' ds).mapM byte? with
  | some [a, b, c, d] => some [256 * a + b, 256 * c + d]
  | _ => none

/- Pieces between colons, the last two of which may be four bytes. -/
def pieces?
    (allowBytes : Bool) : List (List Char) → Option (List Nat)
  | [] => some []
  | [ds] =>
    if allowBytes && ds.contains '.' then bytes? ds
    else (piece? ds).map fun n => [n]
  | ds :: rest => do
    let n ← piece? ds
    let ns ← pieces? allowBytes rest
    return n :: ns

/- Pieces of a text; an empty one has none. -/
def piecesOf?
    (allowBytes : Bool)
    (cs : List Char) : Option (List Nat) :=
  if cs.isEmpty then some [] else pieces? allowBytes (Text.parts ':' cs)

/- What stands before and after the first double colon. -/
def splitGap? : List Char → Option (List Char × List Char)
  | ':' :: ':' :: rest => some ([], rest)
  | c :: rest =>
      (splitGap? rest).map fun (before, after) => (c :: before, after)
  | [] => none

/- The pieces of an address; a double colon stands for missing zeros. -/
def parse?
    (cs : List Char) : Option (List Nat) :=
  match splitGap? cs with
  | none => do
    let ns ← piecesOf? true cs
    guard (ns.length = 8)
    return ns
  | some (before, after) => do
    let before ← piecesOf? false before
    let after ← piecesOf? true after
    guard (before.length + after.length ≤ 7)
    return before ++
      List.replicate (8 - before.length - after.length) 0 ++ after

/- How many zeros stand in front. -/
def zeros
    (ns : List Nat) : Nat :=
  (ns.takeWhile (· == 0)).length

/- Length of the longest run of zeros. -/
def longestRun : List Nat → Nat
  | [] => 0
  | n :: ns => max (zeros (n :: ns)) (longestRun ns)

/- What stands before and after the first run of zeros of a length. -/
def splitRun
    (length : Nat) : List Nat → List Nat × List Nat
  | [] => ([], [])
  | n :: ns =>
    if zeros (n :: ns) = length then ([], (n :: ns).drop length)
    else
      let (before, after) := splitRun length ns
      (n :: before, after)

/- Pieces between colons. -/
def joined
    (ns : List Nat) : String :=
  String.intercalate ":" (ns.map fun n => String.ofList (Hex.shortDigits n))

/- The pieces, without the first of the longest runs of several zeros. -/
def toText
    (ns : List Nat) : String :=
  let run := longestRun ns
  if run < 2 then joined ns
  else
    let (before, after) := splitRun run ns
    joined before ++ "::" ++ joined after

end Ipv6

end ProcessEvents
