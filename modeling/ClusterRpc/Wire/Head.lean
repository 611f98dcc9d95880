import ClusterRpc.Text.Blank
import ClusterRpc.Text.Utf8

/-! # Header blocks: where they end and what they declare -/

namespace ClusterRpc

/-- The first blank line of `s`: how many of the octets before it are added to `n`, and what comes
after it. A blank line is two line feeds, or twice a carriage return and a line feed. -/
def findBlankLine (n : Nat) : Bytes → Option (Nat × Bytes)
  | [] => none
  | b :: rest =>
      match b, rest with
      | 0x0A, 0x0A :: body => some (n, body)
      | 0x0D, 0x0A :: 0x0D :: 0x0A :: body => some (n, body)
      | _, _ => findBlankLine (n + 1) rest

/-- The header block in front of the first blank line, and the body behind it. -/
def splitHead (s : Bytes) : Option (Bytes × Bytes) :=
  (findBlankLine 0 s).map fun found => (s.take found.1, found.2)

/-- What the header block of a reply says about the reply. -/
structure ResponseHead where
  status : Option Nat
  contentLength : Option Nat
deriving DecidableEq, Repr

namespace ResponseHead

/-- The largest status code that is understood. -/
def maxStatus : Nat := 0xFFFF

/-- The largest length that is understood. -/
def maxLength : Nat := 0xFFFFFFFFFFFFFFFF

/-- The status code of a status line. -/
def statusOf (line : Text) : Option Nat :=
  if "HTTP/".toList.isPrefixOf line then
    (Text.words line)[1]?.bind (Text.numeral? maxStatus)
  else none

/-- Name and value of a header line. -/
def field? (line : Text) : Option (Text × Text) := Text.cut ':' line

/-- The length declared by the first header of that name; what that one says counts, even if it is
not a number. -/
def lengthOf (lines : List Text) : Option Nat :=
  ((lines.filterMap field?).find? fun field =>
    Text.sameLetters (Text.trim field.1) "content-length".toList).bind fun field =>
      Text.numeral? maxLength (Text.trim field.2)

def parse (head : Bytes) : ResponseHead :=
  match Text.lines (Utf8.lossy head) with
  | [] => ⟨none, none⟩
  | first :: others => ⟨statusOf first, lengthOf others⟩

end ResponseHead

end ClusterRpc
