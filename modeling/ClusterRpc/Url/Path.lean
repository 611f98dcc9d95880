import ClusterRpc.Url.Percent

/-! # The path of a URL

A path is read segment by segment. A segment of one dot stands for nothing, one of two dots takes
back the segment before it; a dot may be escaped. -/

namespace ClusterRpc.Url.Path

inductive Segment where
  | here
  | up
  | name (text : Text)
deriving DecidableEq, Repr

/-- The text with its escaped dots written as dots. -/
def plainDots : Text → Text
  | '%' :: '2' :: 'e' :: rest | '%' :: '2' :: 'E' :: rest => '.' :: plainDots rest
  | c :: rest => c :: plainDots rest
  | [] => []

/-- Characters that a path holds only in escaped form. -/
def mustEscape (c : Char) : Bool := isControl c || " \"<>`#?\x7b\x7d".toList.contains c

def Segment.ofText (s : Text) : Segment :=
  if plainDots s = ['.'] then .here
  else if plainDots s = ['.', '.'] then .up
  else .name (escapeWhere mustEscape s)

/-- A drive letter: an ASCII letter and a colon or bar. Two dots do not take it back. -/
def isDrive : Text → Bool
  | [letter, mark] => letter.isAlpha && (mark == ':' || mark == '|')
  | _ => false

/-- What two dots leave of the reversed segments before them. -/
def shorten : List Text → List Text
  | [] => []
  | last :: rest => if isDrive last then last :: rest else rest

/-- Adds a segment to the reversed ones before it. A dot segment at the end of a path leaves an
empty segment, so that the path ends in a slash. -/
def add (reversed : List Text) (segment : Segment) (atEnd : Bool) : List Text :=
  let closed (r : List Text) := if atEnd then [] :: r else r
  match segment with
  | .here => closed reversed
  | .up => closed (shorten reversed)
  | .name text => text :: reversed

def collect (reversed : List Text) : List Text → List Text
  | [] => reversed.reverse
  | [last] => (add reversed (.ofText last) true).reverse
  | s :: rest => collect (add reversed (.ofText s) false) rest

/-- The path written as `s`, which starts behind its first slash; `slash` marks the separators. -/
def resolve (slash : Char → Bool) (s : Text) : Text :=
  (collect [] (Text.splitWhere slash s)).flatMap ('/' :: ·)

end ClusterRpc.Url.Path
