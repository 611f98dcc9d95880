import ClusterRpc.Text.Hex
import ClusterRpc.Text.Printable

/-! # Quoted text, for messages -/

namespace ClusterRpc.Text

/-- How a character stands between double quotes: the quote, the backslash and four control
characters after a backslash, any other character without a mark of its own by its code point. -/
def quotedChar (c : Char) : Text :=
  match c with
  | '"' => ['\\', '"']
  | '\\' => ['\\', '\\']
  | '\n' => ['\\', 'n']
  | '\r' => ['\\', 'r']
  | '\t' => ['\\', 't']
  | _ =>
      if c.toNat = 0 then ['\\', '0']
      else if ' ' ≤ c ∧ c ≤ '~' then [c]
      else if isPrintable c then [c]
      else ['\\', 'u', '\x7b'] ++ hex c.toNat ++ ['\x7d']

def quoted (s : Text) : Text := '"' :: s.flatMap quotedChar ++ ['"']

end ClusterRpc.Text

namespace ClusterRpc

/-- A string between double quotes, with escapes. -/
def quote (s : String) : String := String.ofList (Text.quoted s.toList)

end ClusterRpc
