/-! # White space and the cutting of lines of text -/

namespace ClusterRpc

/-- A line or fragment of text, character by character. -/
abbrev Text := List Char

namespace Text

/-- The characters of the Unicode property `White_Space`. -/
def isBlank (c : Char) : Bool :=
  (0x09 ≤ c.val && c.val ≤ 0x0D) || c.val = 0x20 || c.val = 0x85 || c.val = 0xA0 ||
  c.val = 0x1680 || (0x2000 ≤ c.val && c.val ≤ 0x200A) || c.val = 0x2028 || c.val = 0x2029 ||
  c.val = 0x202F || c.val = 0x205F || c.val = 0x3000

def trimStart (s : Text) : Text := s.dropWhile isBlank

def trimEnd (s : Text) : Text := (s.reverse.dropWhile isBlank).reverse

/-- The text without the blanks at either end. -/
def trim (s : Text) : Text := trimEnd (trimStart s)

/-- The pieces between the characters that satisfy `p`; one more than there are such characters. -/
def splitWhere (p : Char → Bool) (s : Text) : List Text :=
  s.foldr (fun c pieces =>
    if p c then [] :: pieces
    else match pieces with
      | [] => [[c]]
      | first :: others => (c :: first) :: others) [[]]

/-- What stands before and after the first `c`. -/
def cut (c : Char) (s : Text) : Option (Text × Text) :=
  match s.span (· != c) with
  | (_, []) => none
  | (before, _ :: after) => some (before, after)

/-- The maximal runs of characters that are not blank. -/
def words (s : Text) : List Text := (splitWhere isBlank s).filter (!·.isEmpty)

/-- The lines of a text. Each ends at a line feed, and a carriage return just before that line feed
is not part of the line; an unterminated last line counts unless it is empty. -/
def lines (s : Text) : List Text :=
  match (splitWhere (· == '\n') s).reverse with
  | [] => []
  | last :: ended =>
      (ended.map fun line => if line.getLast? = some '\r' then line.dropLast else line).reverse ++
        if last.isEmpty then [] else [last]

/-- Equality of texts up to the case of ASCII letters. -/
def sameLetters (s t : Text) : Bool := s.map Char.toLower == t.map Char.toLower

/-- Reads a decimal numeral of at most `limit`: ASCII digits, at least one, with an optional plus
sign before them. -/
def numeral? (limit : Nat) (s : Text) : Option Nat :=
  let digits := match s with
    | '+' :: rest => rest
    | _ => s
  if !digits.isEmpty && digits.all Char.isDigit then
    let value := digits.foldl (fun n c => 10 * n + (c.toNat - '0'.toNat)) 0
    if value ≤ limit then some value else none
  else none

theorem toNat_of_isDigit {c : Char} (h : c.isDigit = true) : 48 ≤ c.toNat ∧ c.toNat ≤ 57 := by
  simpa [Char.isDigit, UInt32.le_iff_toNat_le] using h

/-- The decimal digits of a number. -/
def ofNat (n : Nat) : Text := Nat.toDigits 10 n

end Text

end ClusterRpc
