import ClusterRpc.Text.Utf8
import ClusterRpc.Unicode.Direction
import ClusterRpc.Unicode.DomainMapping
import ClusterRpc.Unicode.Joining
import ClusterRpc.Unicode.Mark
import ClusterRpc.Url.Punycode

/-! # Domain names

A domain name is looked up in its ASCII form: every character is replaced by what it stands for, and
a label with other than ASCII characters is written in Punycode behind a mark. -/

namespace ClusterRpc.Url.Domain

def isAscii (s : Text) : Bool := s.all Punycode.isBasic

/-- What a label in Punycode starts with. -/
def mark : Text := "xn--".toList

/-- The longest labels that are read from and written in Punycode. -/
def maxEncoded : Nat := 2000
def maxLabel : Nat := 1000

/-- Characters of ASCII that no domain name contains. -/
def isForbidden (c : Char) : Bool :=
  c ≤ ' ' || c.toNat = 0x7F || "%#/:<>?@[\\]^|".toList.contains c

/-- What every character stands for, in composed form; nothing if one is not allowed. -/
def mapped? (s : Text) : Option Text := do
  let characters := (← s.mapM Unicode.mapping?).flatten
  return if isAscii characters then characters else Unicode.composed characters

/-- The label that one in Punycode stands for. It has to be in its final form already. -/
def decode? (label : Text) : Option Text := do
  let digits := label.drop mark.length
  if maxEncoded < digits.length ∨ digits.getLast? = some '-' then none
  let decoded ← Punycode.decode? digits
  if (← mapped? decoded) = decoded ∧ !isAscii decoded then some decoded else none

/-- A label as it stands, whether it is in Punycode or not. -/
def plain? (label : Text) : Option Text :=
  if mark.isPrefixOf label then decode? label else some label

/-- Whether a label may be part of a domain name, its direction aside. -/
def isLabel (label : Text) : Bool :=
  !label.any isForbidden &&
    (isAscii label ||
      (label.length ≤ maxLabel && !(label.head?.any Unicode.isMark) &&
        Unicode.joinersFit [] label))

/-- The ASCII form of a label. -/
def encode (label : Text) : Text := if isAscii label then label else mark ++ Punycode.encode label

/-- The ASCII form of the domain name written in the given octets. -/
def toAscii? (s : Bytes) : Option Text := do
  let text ← (Utf8.decode s).toOption
  let labels ← (Text.splitWhere (· == '.') (← mapped? text)).mapM plain?
  let turns := labels.any fun label => label.any fun c => (Unicode.direction c).turns
  if labels.all isLabel && (!turns || labels.all Unicode.keepsDirection) then
    some (List.intercalate ['.'] (labels.map encode))
  else none

end ClusterRpc.Url.Domain
