import ClusterRpc.Url.Percent

/-! # IPv4 addresses in URLs

An address is one to four numbers between full stops. Each may be decimal, octal after `0` or
hexadecimal after `0x`; the last one fills all the octets that are left. -/

namespace ClusterRpc.Url.Ipv4

/-- The number that `s` writes in base `base`; every character has to be a digit of it. -/
def inBase? (base : Nat) (s : Text) : Option Nat :=
  s.foldlM (fun n c => match Text.hexDigit? c with
    | some d => if d < base then some (base * n + d) else none
    | none => none) 0

/-- One part of an address. A lone base mark is zero. -/
def number? : Text → Option Nat
  | [] => none
  | '0' :: 'x' :: digits | '0' :: 'X' :: digits => inBase? 16 digits
  | '0' :: d :: digits => inBase? 8 (d :: digits)
  | digits => inBase? 10 digits

/-- The parts between full stops; one full stop at the end is allowed for. -/
def parts (domain : Text) : List Text :=
  let pieces := Text.splitWhere (· == '.') domain
  if pieces.getLast? = some [] then pieces.dropLast else pieces

/-- Whether a domain has to be an address: its last part is a number or all decimal digits. -/
def endsInNumber (domain : Text) : Bool :=
  match (parts domain).getLast? with
  | some last => (!last.isEmpty && last.all Char.isDigit) || (number? last).isSome
  | none => false

/-- The address a domain stands for, as a number of 32 bits. -/
def parse? (domain : Text) : Option Nat := do
  let numbers ← (parts domain).mapM number?
  let last ← numbers.getLast?
  let leading := numbers.dropLast
  if leading.length ≤ 3 ∧ leading.all (· ≤ 255) ∧ last < Nat.pow 256 (4 - leading.length) then
    some (leading.foldl (fun n octet => 256 * n + octet) 0 * Nat.pow 256 (4 - leading.length) + last)
  else none

/-- The four octets in decimal. -/
def render (address : Nat) : Text :=
  List.intercalate ['.'] <|
    [address / 0x1000000 % 256, address / 0x10000 % 256, address / 256 % 256, address % 256].map
      Text.ofNat

end ClusterRpc.Url.Ipv4
