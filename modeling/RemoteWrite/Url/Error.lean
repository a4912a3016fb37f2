/-!
Contract: why a text is no URL.

Owns: the errors of reading and joining URLs, with their text.

Does not own: the grammar of URLs.
-/

namespace RemoteWrite.Url

inductive Error where
  /-- A reference without a scheme has nothing to refer to. -/
  | relativeWithoutBase
  /-- A reference refers to a URL without a hierarchy. -/
  | cannotBeABase
  | emptyHost
  | invalidPort
  | invalidIpv6
  | invalidIpv4
  | invalidDomain
  /-- A host holds a character that none may hold. -/
  | invalidDomainCharacter
deriving DecidableEq, Repr

def Error.message : Error → String
  | .relativeWithoutBase => "relative URL without a base"
  | .cannotBeABase => "relative URL with a cannot-be-a-base base"
  | .emptyHost => "empty host"
  | .invalidPort => "invalid port number"
  | .invalidIpv6 => "invalid IPv6 address"
  | .invalidIpv4 => "invalid IPv4 address"
  | .invalidDomain => "invalid international domain name"
  | .invalidDomainCharacter => "invalid domain character"

end RemoteWrite.Url
