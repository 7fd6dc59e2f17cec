import PolicyStore.HostName.Label
import PolicyStore.Url.Fault
import PolicyStore.Url.Ipv4
import PolicyStore.Url.Ipv6
import PolicyStore.Url.Percent

/-!
# Hosts

Where the scheme is known a host is an IPv6 address in brackets, an IPv4 address, or an international
name, which is kept in ASCII. Elsewhere it is an IPv6 address or any text without the characters that
have a meaning in URLs.
-/

namespace PolicyStore.Url

/-- A host. The empty name stands for no host. -/
inductive Host
  | name (text : List Char)
  | ipv4 (address : Nat)
  | ipv6 (groups : List Nat)
  deriving DecidableEq, Repr

namespace Host

def chars : Host → List Char
  | .name text => text
  | .ipv4 address => Ipv4.chars address
  | .ipv6 groups => Ipv6.chars groups

/-- Reads an address that starts with a bracket. -/
def readBracketed (s : List Char) : Except Fault Host :=
  if s.getLast? = some ']' then
    match Ipv6.parse? s.tail.dropLast with
    | some groups => .ok (.ipv6 groups)
    | none => .error .invalidIpv6Address
  else .error .invalidIpv6Address

/-- Reads the host of a URL whose scheme is known. -/
def readNamed (s : List Char) : Except Fault Host :=
  if s.head? = some '[' then readBracketed s
  else
    match (Text.ofUtf8? (Percent.decode s)).bind fun text => HostName.toAscii? text.toList with
    | none => .error .invalidInternationalName
    | some [] => .error .emptyHost
    | some ascii =>
      if Ipv4.isAddress ascii then
        match Ipv4.parse? ascii with
        | some address => .ok (.ipv4 address)
        | none => .error .invalidIpv4Address
      else .ok (.name ascii)

def isForbidden (c : Char) : Bool :=
  "\x00\t\n\r #/:<>?@[\\]^|".toList.contains c

/-- Reads the host of a URL whose scheme is not known. -/
def readOpaque (s : List Char) : Except Fault Host :=
  if s.head? = some '[' then readBracketed s
  else if s.any isForbidden then .error .invalidDomainCharacter
  else .ok (.name (Percent.encode Percent.controls s))

end Host

end PolicyStore.Url
