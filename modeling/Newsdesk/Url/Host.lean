import Newsdesk.Url.Address
import Newsdesk.Url.Domain
import Newsdesk.Url.Error

/-!
# Hosts

The host of a URL with a special scheme is a domain name or the number of a machine. With any
other scheme it is an opaque text or a number in brackets.
-/

namespace Newsdesk

open Url

/-- The machine that a URL names. -/
inductive Host where
  | domain (name : String)
  | ipv4 (address : Nat)
  | ipv6 (groups : List Nat)
deriving DecidableEq, Repr

namespace Host

/-- The host that names no machine. -/
def empty : Host := .domain ""

/-- The written form of a host. -/
def toList : Host → List Char
  | .domain name => name.toList
  | .ipv4 address => ipv4Text address
  | .ipv6 groups => '[' :: ipv6Text groups ++ [']']

/-- The text between brackets, if the text starts with one; a missing closing bracket is an
error. -/
def bracketed : List Char → Option (Except UrlError Host)
  | '[' :: rest =>
    some <|
      if rest.getLast? = some ']' then
        match ipv6? rest.dropLast with
        | some groups => .ok (.ipv6 groups)
        | none => .error .invalidIpv6
      else .error .invalidIpv6
  | _ => none

/-- The host of a URL with a special scheme. -/
def ofSpecial (cs : List Char) : Except UrlError Host :=
  match bracketed cs with
  | some result => result
  | none =>
    match Domain.ofUrlText? cs with
    | none => .error .invalidDomainName
    | some [] => .error .emptyHost
    | some name =>
      if endsInNumber name then
        match ipv4? name with
        | some address => .ok (.ipv4 address)
        | none => .error .invalidIpv4
      else .ok (.domain (String.ofList name))

/-- The characters that an opaque host must not have. -/
def isForbidden (c : Char) : Bool :=
  ['\x00', '\t', '\n', '\r', ' ', '#', '/', ':', '<', '>', '?', '@', '[', '\\', ']', '^', '|'].contains c

/-- The host of a URL with any other scheme. -/
def ofOpaque (cs : List Char) : Except UrlError Host :=
  match bracketed cs with
  | some result => result
  | none =>
    if cs.any isForbidden then .error .invalidHostCharacter
    else .ok (.domain (String.ofList (percentEncode inControlSet cs)))

end Host

end Newsdesk
