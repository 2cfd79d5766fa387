import ProcessEvents.Url.Address
import ProcessEvents.Url.Domain
import ProcessEvents.Url.Fault
import ProcessEvents.Url.Percent

/-
  This file defines the hosts of URLs. Where the scheme is a
  known one, a host is a name or a numeric address; in other
  schemes it is any text, or an address in square brackets.

  Key definitions include:
    * `Url.Host`
    * `Url.Host.toText`
    * `Url.Host.ofName`
    * `Url.Host.ofText`
-/

namespace ProcessEvents

namespace Url

/- What a URL is directed to. -/
inductive Host where
  | none
  | name (text : String)
  | ipv4 (address : Nat)
  | ipv6 (pieces : List Nat)
  deriving DecidableEq, Repr

namespace Host

def toText : Host → String
  | none => ""
  | name text => text
  | ipv4 address => Ipv4.toText address
  | ipv6 pieces => "[" ++ Ipv6.toText pieces ++ "]"

/- The address in square brackets, after the opening one. -/
def ofBrackets
    (cs : List Char) : Except Fault Host :=
  if cs.getLast? = some ']' then
    match Ipv6.parse? cs.dropLast with
    | some pieces => .ok (ipv6 pieces)
    | Option.none => .error .ipv6Address
  else .error .ipv6Address

/- The host of a name in ASCII. -/
def ofAscii
    (cs : List Char) : Except Fault Host :=
  if cs.isEmpty then .error .emptyHost
  else if Ipv4.endsInNumber cs then
    match Ipv4.parse? cs with
    | some address => .ok (ipv4 address)
    | Option.none => .error .ipv4Address
  else .ok (name (String.ofList cs))

/- The host of a known scheme, which may be percent-encoded. -/
def ofName
    (cs : List Char) : Except Fault Host :=
  match cs with
  | '[' :: rest => ofBrackets rest
  | cs =>
    match (Percent.decodeText? cs).bind Domain.toAscii? with
    | some ascii => ofAscii ascii
    | Option.none => .error .domainName

/- The characters that no other host may hold. -/
def isForbidden
    (c : Char) : Bool :=
  c == '\x00' || c == '\t' || c == '\n' || c == '\r' ||
    " #/:<>?@[\\]^|".toList.contains c

/- The host of any other scheme. -/
def ofText
    (cs : List Char) : Except Fault Host :=
  match cs with
  | [] => .ok none
  | '[' :: rest => ofBrackets rest
  | cs =>
    if cs.any isForbidden then .error .domainCharacter
    else .ok
      (name (String.ofList (Percent.encode Percent.isControlOrBeyond cs)))

end Host

end Url

end ProcessEvents
