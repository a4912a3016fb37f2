import RemoteWrite.Url.Address
import RemoteWrite.Url.Domain
import RemoteWrite.Url.Error

/-!
Contract: the hosts of URLs.

Owns:
- hosts, and their text in a URL;
- reading hosts, which depends on whether the scheme has rules of its own.

Does not own: where in a URL the host stands.
-/

namespace RemoteWrite.Url

inductive Host where
  /-- A name as it stands in the URL. It may be empty. -/
  | domain (name : String)
  | ipv4 (address : Ipv4)
  | ipv6 (address : Ipv6)
deriving DecidableEq, Repr

namespace Host

def empty : Host := domain ""

def render : Host → String
  | domain name => name
  | ipv4 address => address.render
  | ipv6 address => "[" ++ address.render ++ "]"

/-- Read an address in brackets, given what follows the opening bracket. -/
def ofBracketed (text : List Char) : Except Error Host :=
  match text.reverse with
  | ']' :: inner =>
    match Ipv6.parse? inner.reverse with
    | some address => .ok (.ipv6 address)
    | none => .error .invalidIpv6
  | _ => .error .invalidIpv6

/-- Read the host of a scheme with rules of its own. -/
def ofDomain (text : List Char) : Except Error Host :=
  match text with
  | '[' :: rest => ofBracketed rest
  | _ =>
    match Domain.ascii? text with
    | none => .error .invalidDomain
    | some name =>
      if name.isEmpty then .error .emptyHost
      else if Ipv4.isExpected name then
        match Ipv4.parse? name with
        | some address => .ok (.ipv4 address)
        | none => .error .invalidIpv4
      else .ok (.domain (String.ofList name))

/-- Characters that no host of another scheme has. -/
def forbiddenChars : List Char :=
  ['\x00', '\t', '\n', '\r', ' ', '#', '/', ':', '<', '>', '?', '@', '[', '\\', ']', '^', '|']

def ofOther (text : List Char) : Except Error Host :=
  match text with
  | '[' :: rest => ofBracketed rest
  | _ =>
    if text.any forbiddenChars.contains then .error .invalidDomainCharacter
    else .ok (.domain (Part.host.write text))

end Host
end RemoteWrite.Url
