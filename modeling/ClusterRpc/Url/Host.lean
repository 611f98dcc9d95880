import ClusterRpc.Url.Domain
import ClusterRpc.Url.Fault
import ClusterRpc.Url.Ipv4
import ClusterRpc.Url.Ipv6

/-! # The host of a URL -/

namespace ClusterRpc.Url

inductive Host where
  | name (text : Text)
  /-- An address, as a number of 32 bits. -/
  | ipv4 (address : Nat)
  | ipv6 (groups : List Nat)
deriving DecidableEq, Repr

namespace Host

/-- The host without the brackets that an IPv6 address has in a URL. -/
def text : Host → Text
  | .name text => text
  | .ipv4 address => Ipv4.render address
  | .ipv6 groups => Ipv6.render groups

/-- An IPv6 address between brackets, of which the first is already read. -/
def bracketed (s : Text) : Except Fault Host :=
  match s.getLast?, Ipv6.parse? s.dropLast with
  | some ']', some groups => .ok (.ipv6 groups)
  | _, _ => .error .ipv6

/-- Characters that no host name contains. -/
def isForbidden (c : Char) : Bool :=
  c.toNat = 0 || "\t\n\r #/:<>?@[\\]^|".toList.contains c

/-- The host of a scheme that has no rules of its own for it: any name, kept as it is. -/
def ofOpaque (s : Text) : Except Fault Host :=
  match s with
  | '[' :: rest => bracketed rest
  | _ =>
      if s.any isForbidden then .error .hostCharacter
      else .ok (.name (escapeWhere isControl s))

/-- The host of a scheme that looks hosts up as domains. -/
def ofDomain (s : Text) : Except Fault Host :=
  match s with
  | '[' :: rest => bracketed rest
  | _ =>
      match Domain.toAscii? (unescape s) with
      | none => .error .domainName
      | some [] => .error .emptyHost
      | some domain =>
          if Ipv4.endsInNumber domain then
            match Ipv4.parse? domain with
            | some address => .ok (.ipv4 address)
            | none => .error .ipv4
          else .ok (.name domain)

end Host

end ClusterRpc.Url
