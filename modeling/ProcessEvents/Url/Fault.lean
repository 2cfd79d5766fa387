/-
  This file defines why a text is no URL that paths can be
  appended to.

  Key definitions include:
    * `Url.Fault`
    * `Url.Fault.message`
-/

namespace ProcessEvents

namespace Url

/- Why a text is not accepted. -/
inductive Fault where
  | emptyHost
  | domainName
  | port
  | ipv4Address
  | ipv6Address
  | domainCharacter
  | relativeWithoutBase
  | withoutPath
  deriving DecidableEq, Repr

def Fault.message : Fault → String
  | .emptyHost => "empty host"
  | .domainName => "invalid international domain name"
  | .port => "invalid port number"
  | .ipv4Address => "invalid IPv4 address"
  | .ipv6Address => "invalid IPv6 address"
  | .domainCharacter => "invalid domain character"
  | .relativeWithoutBase => "relative URL without a base"
  | .withoutPath => "relative URL with a cannot-be-a-base base"

end Url

end ProcessEvents
