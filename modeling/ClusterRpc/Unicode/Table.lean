import ClusterRpc.Text.Hex

/-! # Tables of character properties

A table is written as a text of entries between blanks. An entry is a code point or two with a
hyphen for a range, in hexadecimal digits; a slash and a number if only every so many of the range
are meant; and what the table says about them behind `=` or `>`. -/

namespace ClusterRpc.Unicode

/-- One entry of a table. -/
structure Row where
  low : Nat
  high : Nat
  stride : Nat
  value : Text
deriving DecidableEq, Repr

def code (s : Text) : Nat := (Text.ofHex? s).getD 0

namespace Row

def read (entry : Text) : Row :=
  let span := entry.takeWhile fun c => c != '>' && c != '='
  let range := span.takeWhile (· != '/')
  let (low, high) := (Text.cut '-' range).getD (range, range)
  { low := code low
    high := code high
    stride := (Text.numeral? 16 (span.drop (range.length + 1))).getD 1
    value := entry.drop (span.length + 1) }

def covers (r : Row) (c : Char) : Bool :=
  r.low ≤ c.toNat && c.toNat ≤ r.high && (c.toNat - r.low) % r.stride == 0

end Row

/-- A table of characters, in increasing order. -/
abbrev Table := List Row

namespace Table

def read (text : String) : Table := (Text.words text.toList).map Row.read

def row? (t : Table) (c : Char) : Option Row := t.find? (·.covers c)

def has (t : Table) (c : Char) : Bool := t.any (·.covers c)

/-- What the table says about a character. -/
def value? (t : Table) (c : Char) : Option Text := (t.row? c).map Row.value

end Table

end ClusterRpc.Unicode
