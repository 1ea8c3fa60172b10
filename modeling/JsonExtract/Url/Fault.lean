/-!
# Faults of addresses
-/

namespace JsonExtract.Url

inductive Fault where
  /-- There is no scheme. -/
  | relative
  | emptyHost
  /-- The domain name has no plain form. -/
  | invalidDomain
  /-- The host of a scheme without domain names holds a character that separates parts. -/
  | invalidHostCharacter
  | invalidIpv4
  | invalidIpv6
  | invalidPort
deriving DecidableEq, Repr

def Fault.reason : Fault → String
  | .relative => "relative URL without a base"
  | .emptyHost => "empty host"
  | .invalidDomain => "invalid international domain name"
  | .invalidHostCharacter => "invalid domain character"
  | .invalidIpv4 => "invalid IPv4 address"
  | .invalidIpv6 => "invalid IPv6 address"
  | .invalidPort => "invalid port number"

end JsonExtract.Url
