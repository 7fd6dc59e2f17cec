/-!
# Why a text is no absolute URL
-/

namespace PolicyStore.Url

inductive Fault
  /-- It has no scheme, so it would need another URL to start from. -/
  | noBase
  | emptyHost
  | invalidInternationalName
  | invalidPort
  | invalidIpv4Address
  | invalidIpv6Address
  | invalidDomainCharacter
  deriving DecidableEq, Repr

def Fault.message : Fault → String
  | .noBase => "relative URL without a base"
  | .emptyHost => "empty host"
  | .invalidInternationalName => "invalid international domain name"
  | .invalidPort => "invalid port number"
  | .invalidIpv4Address => "invalid IPv4 address"
  | .invalidIpv6Address => "invalid IPv6 address"
  | .invalidDomainCharacter => "invalid domain character"

end PolicyStore.Url
