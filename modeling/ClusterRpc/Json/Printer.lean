import ClusterRpc.Json.Value
import ClusterRpc.Number.Shortest
import ClusterRpc.Text.Quoted

/-! # JSON text: the compact and the indented form -/

namespace ClusterRpc

namespace Decimal

/-- Where a decimal is written out in positions and where with an exponent. -/
structure Layout where
  /-- Positional notation starts at `10 ^ lowest`. -/
  lowest : Int
  /-- Positional notation ends before `10 ^ highest`. -/
  highest : Int

/-- The text of a decimal. A positional number has at least one place after the point; an exponent
is written with its sign. -/
def render (layout : Layout) (d : Decimal) : Text :=
  let digits := Text.ofNat d.digits
  let point : Int := digits.length + d.exponent
  if d.digits = 0 then "0.0".toList
  else if 0 ≤ d.exponent ∧ point ≤ layout.highest then
    digits ++ List.replicate d.exponent.toNat '0' ++ ".0".toList
  else if 0 < point ∧ point ≤ layout.highest then
    digits.take point.toNat ++ '.' :: digits.drop point.toNat
  else if layout.lowest < point ∧ point ≤ 0 then
    "0.".toList ++ List.replicate (-point).toNat '0' ++ digits
  else
    let exponent := point - 1
    let sign := if exponent < 0 then '-' else '+'
    let fraction := if digits.length = 1 then [] else '.' :: digits.drop 1
    digits.take 1 ++ fraction ++ 'e' :: sign :: Text.ofNat exponent.natAbs

end Decimal

namespace Json

/-- JSON numbers stand in positions from `0.00001` up to below `1e16`. -/
def layout : Decimal.Layout := ⟨-5, 16⟩

namespace Number

def text : Number → String
  | .integer n => toString n
  | .real x =>
      String.ofList ((if x.negative then ['-'] else []) ++ x.shortest.render layout)

end Number

/-- The escaped form of one character of a string. -/
def escaped (c : Char) : Text :=
  match c with
  | '"' => ['\\', '"']
  | '\\' => ['\\', '\\']
  | '\n' => ['\\', 'n']
  | '\r' => ['\\', 'r']
  | '\t' => ['\\', 't']
  | '\x08' => ['\\', 'b']
  | '\x0c' => ['\\', 'f']
  | _ =>
      if c.toNat < 0x20 then
        ['\\', 'u', '0', '0', if c.toNat < 0x10 then '0' else '1', Nat.digitChar (c.toNat % 16)]
      else [c]

/-- A string as a JSON literal. -/
def literal (s : String) : String := String.ofList ('"' :: s.toList.flatMap escaped ++ ['"'])

mutual

/-- The text of a value without any white space. -/
def compact : Json → String
  | .null => "null"
  | .bool true => "true"
  | .bool false => "false"
  | .number n => n.text
  | .string s => literal s
  | .array items => "[" ++ compactItems items ++ "]"
  | .object fields => "\x7b" ++ compactFields fields ++ "\x7d"

def compactItems : List Json → String
  | [] => ""
  | [v] => compact v
  | v :: rest => compact v ++ "," ++ compactItems rest

def compactFields : List (String × Json) → String
  | [] => ""
  | [(k, v)] => literal k ++ ":" ++ compact v
  | (k, v) :: rest => literal k ++ ":" ++ compact v ++ "," ++ compactFields rest

end

/-- A line break followed by `depth` steps of indentation. -/
def newline (depth : Nat) : String := String.ofList ('\n' :: List.replicate (2 * depth) ' ')

mutual

/-- The text of a value, `depth` levels inside another: one item a line, two spaces a level. -/
def prettyAt (depth : Nat) : Json → String
  | .null => "null"
  | .bool true => "true"
  | .bool false => "false"
  | .number n => n.text
  | .string s => literal s
  | .array [] => "[]"
  | .array items => "[" ++ prettyItems (depth + 1) items ++ newline depth ++ "]"
  | .object [] => "\x7b\x7d"
  | .object fields => "\x7b" ++ prettyFields (depth + 1) fields ++ newline depth ++ "\x7d"

def prettyItems (depth : Nat) : List Json → String
  | [] => ""
  | [v] => newline depth ++ prettyAt depth v
  | v :: rest => newline depth ++ prettyAt depth v ++ "," ++ prettyItems depth rest

def prettyFields (depth : Nat) : List (String × Json) → String
  | [] => ""
  | [(k, v)] => newline depth ++ literal k ++ ": " ++ prettyAt depth v
  | (k, v) :: rest =>
      newline depth ++ literal k ++ ": " ++ prettyAt depth v ++ "," ++ prettyFields depth rest

end

def pretty (v : Json) : String := prettyAt 0 v

/-- An error message writes every number in positions. -/
def describedLayout : Decimal.Layout := ⟨-400, 400⟩

/-- What an error message calls a value that was not wanted. -/
def described : Json → String
  | .null => "null"
  | .bool b => s!"boolean `{b}`"
  | .number (.integer n) => s!"integer `{n}`"
  | .number (.real x) =>
      let sign := if x.negative then "-" else ""
      let digits := String.ofList (x.shortest.render describedLayout)
      s!"floating point `{sign}{digits}`"
  | .string s => "string " ++ quote s
  | .array _ => "sequence"
  | .object _ => "map"

end Json

end ClusterRpc
