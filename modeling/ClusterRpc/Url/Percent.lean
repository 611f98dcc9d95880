import ClusterRpc.Text.Hex
import ClusterRpc.Text.Utf8

/-! # Percent encoding

An octet may stand in a URL as a percent sign and two hexadecimal digits. Writing uses upper-case
digits; reading takes both cases and leaves a percent sign that no two digits follow as it is. -/

namespace ClusterRpc.Url

def escapedOctet (b : UInt8) : Text :=
  ['%', (Nat.digitChar (b.toNat / 16)).toUpper, (Nat.digitChar (b.toNat % 16)).toUpper]

def escaped (c : Char) : Text := (Utf8.encode [c]).flatMap escapedOctet

/-- Control characters and everything outside ASCII. -/
def isControl (c : Char) : Bool := c < ' ' || '~' < c

/-- Escapes the characters that satisfy `p`. -/
def escapeWhere (p : Char → Bool) (s : Text) : Text :=
  s.flatMap fun c => if p c then escaped c else [c]

/-- The octets that a text with escapes stands for. -/
def unescape : Text → Bytes
  | '%' :: a :: b :: rest =>
      match Text.hexDigit? a, Text.hexDigit? b with
      | some h, some l => UInt8.ofNat (16 * h + l) :: unescape rest
      | _, _ => Utf8.encode ['%'] ++ unescape (a :: b :: rest)
  | c :: rest => Utf8.encode [c] ++ unescape rest
  | [] => []

end ClusterRpc.Url
