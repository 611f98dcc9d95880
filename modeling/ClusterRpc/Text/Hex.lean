import ClusterRpc.Text.Blank

/-! # Hexadecimal numerals -/

namespace ClusterRpc.Text

/-- The value of a hexadecimal digit of either case. -/
def hexDigit? (c : Char) : Option Nat :=
  if '0' ≤ c ∧ c ≤ '9' then some (c.toNat - '0'.toNat)
  else if 'a' ≤ c ∧ c ≤ 'f' then some (c.toNat - 'a'.toNat + 10)
  else if 'A' ≤ c ∧ c ≤ 'F' then some (c.toNat - 'A'.toNat + 10)
  else none

/-- The number that hexadecimal digits write; nothing if one of them is no digit. -/
def ofHex? (s : Text) : Option Nat := s.foldlM (fun n c => (hexDigit? c).map (16 * n + ·)) 0

/-- The lower-case hexadecimal digits of a number. -/
def hex (n : Nat) : Text := Nat.toDigits 16 n

end ClusterRpc.Text
