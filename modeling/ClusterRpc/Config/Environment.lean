import ClusterRpc.Toml.Reader

/-! # Settings from environment variables

A variable named for a setting, in capitals behind `CMON_`, sets it. Its text is read as a value: a
truth value, a number, a quoted string, a list or a table; all else is taken as it stands. -/

namespace ClusterRpc

/-- The environment of a process. -/
abbrev Environment := List (String × String)

namespace Environment

/-! ## Values -/

/-- A number with a fraction or an exponent, or one of the names of no finite number. -/
def real? (s : Text) : Option Json := do
  let (negative, body) := Toml.signed (s.map Char.toLower)
  if ["inf".toList, "infinity".toList, "nan".toList].contains body then
    return Toml.foreign "float" (String.ofList s)
  let mantissa := body.takeWhile (· != 'e')
  let exponent ← match body.drop mantissa.length with
    | [] => some 0
    | _ :: e => do
        let d ← Toml.digits? 10 (Toml.signed e).2
        pure (if (Toml.signed e).1 then -(Toml.ofDigits 10 d : Int) else Toml.ofDigits 10 d)
  let (whole, fraction) := (Text.cut '.' mantissa).getD (mantissa, [])
  let digits := whole ++ fraction
  if digits.isEmpty || !digits.all Char.isDigit then none
  else
    let significand := Toml.ofDigits 10 (digits.map fun c => c.toNat - '0'.toNat)
    match Toml.nearest significand (exponent - fraction.length) with
    | some x => some (.number (.real (x.withSign negative)))
    | none => some (Toml.foreign "float" (String.ofList s))

/-- An integer of 64 bits, signed or unsigned. -/
def integer? (s : Text) : Option Json :=
  match Text.numeral? 0xFFFFFFFFFFFFFFFF s, s with
  | some n, _ => some (.ofNat n)
  | none, '-' :: digits =>
      if digits.head? = some '+' then none
      else (Text.numeral? 0x8000000000000000 digits).map fun n => Json.ofInt (-n)
  | none, _ => none

/-- A text without quotes or brackets. -/
def plain (s : Text) : Json :=
  if s = "true".toList then .bool true
  else if s = "false".toList then .bool false
  else match integer? s, real? s with
    | some v, _ => v
    | none, some v => v
    | none, none => .string (String.ofList s)

def isSpace (c : Char) : Bool := " \t\n\x0c\r".toList.contains c

def skip (s : Text) : Text := s.dropWhile isSpace

def isBracket (c : Char) : Bool := ",[]\x7b\x7d".toList.contains c

/-- Reads items up to the character `close`; at most `most`. -/
def items {α : Type} (item : Text → Option (α × Text)) (close : Char) :
    (most : Nat) → Text → Option (List α × Text)
  | 0, _ => none
  | most + 1, s =>
      if s.head? = some close then some ([], s.tail)
      else do
        let (v, rest) ← item s
        match rest with
        | ',' :: rest =>
            let (vs, rest) ← items item close most rest
            return (v :: vs, rest)
        | c :: rest => if c = close then some ([v], rest) else none
        | [] => none

/-- Reads a name, an equals sign and a value. -/
def entry (value : Text → Option (Json × Text)) (s : Text) : Option ((String × Json) × Text) := do
  let s := skip s
  let isName (c : Char) : Bool := c.isAlphanum || c == '_' || c == '-'
  let (name, rest) ← match s with
    | '"' :: rest => (Toml.basicString 0 rest).toOption
    | _ => some (s.takeWhile isName, s.dropWhile isName)
  match skip rest with
  | '=' :: rest =>
      let (v, rest) ← value (skip rest)
      if s.head? ≠ some '"' ∧ name.isEmpty then none
      else some ((String.ofList name, v), skip rest)
  | _ => none

/-- Reads a value nested at most `depth` deep, and the blanks around it. -/
def value : (depth : Nat) → Text → Option (Json × Text)
  | 0, _ => none
  | depth + 1, s => do
      let (v, rest) ← match skip s with
        | '[' :: rest => (items (value depth) ']' (rest.length + 1) rest).map fun p =>
            (.array p.1, p.2)
        | '\x7b' :: rest => (items (entry (value depth)) '\x7d' (rest.length + 1) rest).map fun p =>
            (Json.ofFields p.1, p.2)
        | '"' :: rest => (Toml.basicString 0 rest).toOption.map fun p =>
            (.string (String.ofList p.1), p.2)
        | '\'' :: c :: '\'' :: rest => some (.string (String.ofList [c]), rest)
        | '\'' :: _ => none
        | s =>
            let run := s.takeWhile (!isBracket ·)
            some (plain (Text.trim run), s.drop run.length)
      return (v, skip rest)

/-- The value of a variable. A text with commas that starts like none of the bracketed forms is a
list, and one that cannot be read is taken as it stands. -/
def valueOf (text : String) : Json :=
  let s := Text.trim text.toList
  if s.contains ',' && !(s.head?.any ("[\x7b\"'".toList.contains ·)) then
    .array ((Text.splitWhere (· == ',') s).map fun piece => .string (String.ofList (Text.trim piece)))
  else match value (s.length + 1) s with
    | some (v, []) => v
    | _ => .string (String.ofList s)

/-! ## Settings -/

def mark : Text := "cmon_".toList

/-- The setting that a variable names, if it does. Two underscores lead into a table. -/
def path? (name : String) : Option (List String) :=
  let name := name.toList.map Char.toLower
  if mark.isPrefixOf name then
    let parts (s : Text) : List Text :=
      s.foldr (fun c r => match c, r with
        | '_', ('_' :: piece) :: rest => [] :: piece :: rest
        | c, piece :: rest => (c :: piece) :: rest
        | c, [] => [[c]]) [[]]
    let names := (parts (name.drop mark.length)).flatMap (Text.splitWhere (· == '.'))
    if names.any List.isEmpty then none else some (names.map String.ofList)
  else none

/-- The settings in an environment. -/
def settings (env : Environment) : Json.Object :=
  env.foldl (fun settings (name, text) =>
    match path? name with
    | some (setting :: inner) =>
        settings.insert setting (inner.foldr (fun key v => .object [(key, v)]) (valueOf text))
    | _ => settings) []

end Environment

end ClusterRpc
