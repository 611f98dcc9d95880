import ClusterRpc.Toml.Scalar

/-! # Reading TOML keys and values

A reader takes something off the front of a text. Where it fails, the text still unread tells the
place. -/

namespace ClusterRpc.Toml

/-- The thing read and what follows it, or what was unread at a fault. -/
abbrev Read (α : Type) := Except Text (α × Text)

def isSpace (c : Char) : Bool := c == ' ' || c == '\t'

def skipSpaces (s : Text) : Text := s.dropWhile isSpace

/-- Control characters, of which only the tab may stand in a string or comment. -/
def isControl (c : Char) : Bool := (c < ' ' && c != '\t') || c.toNat = 0x7F

/-! ## Strings -/

/-- The character with the given hexadecimal code point. -/
def coded? (digits : Text) : Option Char := do
  let n ← Text.ofHex? digits
  if n < 0xD800 ∨ (0xDFFF < n ∧ n < 0x110000) then some (Char.ofNat n) else none

/-- The character that an escape behind a backslash stands for, and the length of the escape. -/
def escape? : Text → Option (Char × Nat)
  | 'b' :: _ => some ('\x08', 1)
  | 't' :: _ => some ('\t', 1)
  | 'n' :: _ => some ('\n', 1)
  | 'f' :: _ => some ('\x0c', 1)
  | 'r' :: _ => some ('\r', 1)
  | '"' :: _ => some ('"', 1)
  | '\\' :: _ => some ('\\', 1)
  | 'u' :: rest => if 4 ≤ rest.length then (coded? (rest.take 4)).map (·, 5) else none
  | 'U' :: rest => if 8 ≤ rest.length then (coded? (rest.take 8)).map (·, 9) else none
  | _ => none

def prepend (c : Char) (r : Read Text) : Read Text := r.map fun p => (c :: p.1, p.2)

/-- The rest of a string between double quotes; the first `skip` characters are read already. -/
def basicString : (skip : Nat) → Text → Read Text
  | _, [] => .error []
  | skip + 1, _ :: rest => basicString skip rest
  | 0, '"' :: rest => .ok ([], rest)
  | 0, '\\' :: rest =>
      match escape? rest with
      | some (c, length) => prepend c (basicString length rest)
      | none => .error rest
  | 0, c :: rest => if isControl c then .error (c :: rest) else prepend c (basicString 0 rest)

/-- The rest of a string between single quotes. -/
def literalString : Text → Read Text
  | [] => .error []
  | '\'' :: rest => .ok ([], rest)
  | c :: rest => if isControl c then .error (c :: rest) else prepend c (literalString rest)

/-- How far a backslash at the end of a line reaches: over every blank and line break after it. -/
def continued? (s : Text) : Option Nat :=
  match s.dropWhile isSpace with
  | '\n' :: _ | '\r' :: '\n' :: _ =>
      some (s.takeWhile fun c => isSpace c || c == '\n' || c == '\r').length
  | _ => none

/-- The rest of a string of several lines between three of the quotes `q`. Up to two quotes may
stand before the closing ones. -/
def blockString (q : Char) : (skip : Nat) → Text → Read Text
  | _, [] => .error []
  | skip + 1, _ :: rest => blockString q skip rest
  | 0, c :: rest =>
      if c = q ∧ rest.take 2 = [q, q] then
        let extra := ((rest.drop 2).take 2).takeWhile (· == q)
        .ok (extra, rest.drop (2 + extra.length))
      else if c = '\\' ∧ q = '"' then
        match continued? rest, escape? rest with
        | some length, _ => blockString q length rest
        | none, some (e, length) => prepend e (blockString q length rest)
        | none, none => .error rest
      else if c = '\r' ∧ rest.head? = some '\n' then blockString q 0 rest
      else if c ≠ '\n' ∧ isControl c then .error (c :: rest)
      else prepend c (blockString q 0 rest)

/-- The first line break of a string of several lines is not part of it. -/
def dropFirstBreak : Text → Text
  | '\r' :: '\n' :: rest | '\n' :: rest => rest
  | s => s

/-- Reads a string on one line. -/
def lineString : Text → Read Text
  | '"' :: rest => basicString 0 rest
  | '\'' :: rest => literalString rest
  | s => .error s

/-- Reads a string of any kind. -/
def string : Text → Read Text
  | '"' :: '"' :: '"' :: rest => blockString '"' 0 (dropFirstBreak rest)
  | '\'' :: '\'' :: '\'' :: rest => blockString '\'' 0 (dropFirstBreak rest)
  | s => lineString s

/-! ## Keys -/

def isKeyChar (c : Char) : Bool := c.isAlphanum || c == '-' || c == '_'

/-- Reads one part of a key. -/
def keyPart (s : Text) : Read String :=
  match s.takeWhile isKeyChar with
  | [] => (lineString s).map fun p => (String.ofList p.1, p.2)
  | bare => .ok (String.ofList bare, s.drop bare.length)

/-- Reads the parts of a key between full stops; at most `most` of them. -/
def keyParts : (most : Nat) → Text → Except Text (List String × Text)
  | 0, s => .error s
  | most + 1, s => do
      let (part, rest) ← keyPart (skipSpaces s)
      match skipSpaces rest with
      | '.' :: rest =>
          let (parts, rest) ← keyParts most rest
          return (part :: parts, rest)
      | rest => return ([part], rest)

/-- Reads a key and the spaces after it. -/
def key (s : Text) : Read (List String) := keyParts (s.length + 1) s

/-! ## Values -/

/-- Reads over a comment. -/
def comment (s : Text) : Except Text Text :=
  let body := s.takeWhile fun c => c != '\n' && !(isControl c)
  match s.drop body.length with
  | [] => .ok []
  | '\n' :: rest => .ok ('\n' :: rest)
  | '\r' :: '\n' :: rest => .ok ('\n' :: rest)
  | rest => .error rest

/-- Reads over blanks, line breaks and comments; at most `most` lines. -/
def skipLines : (most : Nat) → Text → Except Text Text
  | 0, s => .ok s
  | most + 1, s =>
      match skipSpaces s with
      | '\n' :: rest | '\r' :: '\n' :: rest => skipLines most rest
      | '#' :: rest => do skipLines most (← comment rest)
      | rest => .ok rest

/-- Reads over everything between the items of an array. -/
def skipBetween (s : Text) : Except Text Text := skipLines (s.length + 1) s

/-- Reads the items of an array up to its bracket; at most `most`. -/
def arrayItems (item : Text → Read Value) :
    (most : Nat) → Text → Except Text (List Value × Text)
  | 0, s => .error s
  | most + 1, s => do
      match ← skipBetween s with
      | ']' :: rest => return ([], rest)
      | s =>
          let (v, rest) ← item s
          match ← skipBetween rest with
          | ',' :: rest =>
              let (vs, rest) ← arrayItems item most rest
              return (v :: vs, rest)
          | ']' :: rest => return ([v], rest)
          | rest => throw rest

/-- Reads a key, an equals sign and a value into `entries`. -/
def entry (item : Text → Read Value) (entries : Entries) (s : Text) :
    Except Text (Entries × Text) := do
  let (path, rest) ← key s
  match rest with
  | '=' :: rest' =>
      let (v, rest) ← item (skipSpaces rest')
      match entries.addDotted v path with
      | some entries => return (entries, rest)
      | none => throw s
  | _ => throw rest

/-- Reads the entries of a table between braces; at most `most`. -/
def tableEntries (item : Text → Read Value) :
    (most : Nat) → Entries → Text → Except Text (Entries × Text)
  | 0, _, s => .error s
  | most + 1, entries, s => do
      let (entries, rest) ← entry item entries (skipSpaces s)
      match skipSpaces rest with
      | ',' :: rest => tableEntries item most entries rest
      | '\x7d' :: rest => return (entries, rest)
      | rest => throw rest

def endsScalar (c : Char) : Bool := " \t\n\r,]\x7d#=".toList.contains c

/-- Reads a number, a truth value or a date. A space in a date does not end it. -/
def scalar (s : Text) : Read Value :=
  let run := s.takeWhile (!endsScalar ·)
  let tail := s.drop run.length
  let more := match tail with
    | ' ' :: rest => ' ' :: rest.takeWhile (!endsScalar ·)
    | _ => []
  let run := if isDay run ∧ (more[1]?).any Char.isDigit then run ++ more else run
  match scalar? run with
  | some v => .ok (v, s.drop run.length)
  | none => .error s

/-- Reads a value in which arrays and tables are nested at most `depth` deep. -/
def value : (depth : Nat) → Text → Read Value
  | 0, s => .error s
  | depth + 1, s =>
      match s with
      | '"' :: _ | '\'' :: _ => (string s).map fun p => (.string (String.ofList p.1), p.2)
      | '[' :: rest =>
          (arrayItems (value depth) (rest.length + 1) rest).map fun p => (.array p.1, p.2)
      | '\x7b' :: rest =>
          match skipSpaces rest with
          | '\x7d' :: rest => .ok (.table .braces [], rest)
          | rest =>
              (tableEntries (value depth) (rest.length + 1) [] rest).map fun p =>
                (.table .braces p.1, p.2)
      | _ => scalar s

/-- How deep values may be nested. -/
def depthLimit : Nat := 80

end ClusterRpc.Toml
