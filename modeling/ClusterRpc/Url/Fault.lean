/-! # What can be wrong with a URL -/

namespace ClusterRpc.Url

inductive Fault where
  /-- The text does not start with a scheme. -/
  | noScheme
  | emptyHost
  /-- The host is no domain name that has an ASCII form. -/
  | domainName
  /-- The host contains a character that no host may contain. -/
  | hostCharacter
  | ipv4
  | ipv6
  | port
deriving DecidableEq, Repr

def Fault.message : Fault → String
  | .noScheme => "relative URL without a base"
  | .emptyHost => "empty host"
  | .domainName => "invalid international domain name"
  | .hostCharacter => "invalid domain character"
  | .ipv4 => "invalid IPv4 address"
  | .ipv6 => "invalid IPv6 address"
  | .port => "invalid port number"

end ClusterRpc.Url
