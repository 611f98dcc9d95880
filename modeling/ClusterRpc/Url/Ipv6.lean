import ClusterRpc.Text.Hex

/-! # IPv6 addresses in URLs

An address is eight groups of sixteen bits. One run of groups may be left out as `::`, and the last
two groups may be written as four decimal octets. -/

namespace ClusterRpc.Url.Ipv6

/-- One group: one to four hexadecimal digits. -/
def group? (s : Text) : Option Nat :=
  if s.isEmpty || 4 < s.length then none
  else Text.ofHex? s

/-- A decimal octet, without superfluous zeros. -/
def octet? (s : Text) : Option Nat :=
  if s.head? = some '0' ∧ s ≠ ['0'] ∨ s.head? = some '+' then none else Text.numeral? 255 s

/-- Four octets between full stops, as two groups. -/
def dotted? (s : Text) : Option (List Nat) :=
  match (Text.splitWhere (· == '.') s).mapM octet? with
  | some [a, b, c, d] => some [256 * a + b, 256 * c + d]
  | _ => none

/-- Groups between colons; the last piece may be dotted. -/
def groups? : List Text → Option (List Nat)
  | [] => some []
  | [last] => match group? last with
    | some g => some [g]
    | none => dotted? last
  | piece :: rest => do return (← group? piece) :: (← groups? rest)

/-- What stands before and after the first double colon. -/
def cutDouble : Text → Option (Text × Text)
  | [] | [_] => none
  | c :: d :: rest =>
      if c = ':' ∧ d = ':' then some ([], rest)
      else (cutDouble (d :: rest)).map fun p => (c :: p.1, p.2)

/-- The pieces between single colons; none of an empty text. -/
def pieces (s : Text) : List Text := if s.isEmpty then [] else Text.splitWhere (· == ':') s

/-- The eight groups of an address. -/
def parse? (s : Text) : Option (List Nat) :=
  match cutDouble s with
  | none => do
      let groups ← groups? (pieces s)
      if groups.length = 8 then some groups else none
  | some (before, after) => do
      let front ← (pieces before).mapM group?
      let back ← groups? (pieces after)
      if front.length + back.length ≤ 7 then
        some (front ++ List.replicate (8 - front.length - back.length) 0 ++ back)
      else none

/-- Where the first of the longest runs of zeros begins, and its length. -/
def longestZeros (groups : List Nat) : Nat × Nat :=
  (List.range groups.length).foldl (fun best i =>
    let run := ((groups.drop i).takeWhile (· == 0)).length
    if best.2 < run then (i, run) else best) (0, 0)

def renderGroups (groups : List Nat) : Text :=
  List.intercalate [':'] (groups.map Text.hex)

/-- Writes an address. The first longest run of at least two zero groups is left out. -/
def render (groups : List Nat) : Text :=
  let (start, length) := longestZeros groups
  if 2 ≤ length then
    renderGroups (groups.take start) ++ [':', ':'] ++ renderGroups (groups.drop (start + length))
  else renderGroups groups

end ClusterRpc.Url.Ipv6
