import ClusterRpc.Toml.Reader

/-! # TOML documents

A document is a sequence of lines: a header opens a table, and a key and a value go into the table
opened last. -/

namespace ClusterRpc.Toml

/-- Where a text is not TOML: line and column, counted from one. -/
structure Fault where
  line : Nat
  column : Nat
deriving DecidableEq, Repr

def Fault.message (f : Fault) : String :=
  let line := f.line
  let column := f.column
  s!"TOML parse error at line {line}, column {column}"

/-- The place in `text` where `rest` is still unread. -/
def Fault.locate (text rest : Text) : Fault :=
  let read := text.take (text.length - rest.length)
  { line := 1 + read.count '\n'
    column := 1 + (read.reverse.takeWhile (· != '\n')).length }

/-- A document as far as it is read: its entries, and the path of the table opened last. -/
structure Draft where
  entries : Entries
  current : List String
deriving Repr

namespace Draft

/-- Opens the table of a header. -/
def opened (d : Draft) (path : List String) (how : String → Entries → Option Entries) :
    Option Draft := do
  let last ← path.getLast?
  let entries ← d.entries.within (how last) path.dropLast
  return ⟨entries, path⟩

/-- Reads a header, or a key and a value. -/
def statement (d : Draft) (s : Text) : Except Text (Draft × Text) := do
  match s with
  | '[' :: '[' :: rest =>
      let (path, rest) ← key rest
      match rest, d.opened path Entries.openElement with
      | ']' :: ']' :: rest, some d => return (d, rest)
      | ']' :: ']' :: _, none => throw s
      | rest, _ => throw rest
  | '[' :: rest =>
      let (path, rest) ← key rest
      match rest, d.opened path Entries.openTable with
      | ']' :: rest, some d => return (d, rest)
      | ']' :: _, none => throw s
      | rest, _ => throw rest
  | _ =>
      let (path, rest) ← key s
      match rest with
      | '=' :: rest' =>
          let (v, rest) ← value depthLimit (skipSpaces rest')
          match d.entries.within (fun table => table.addDotted v path) d.current with
          | some entries => return ({ d with entries }, rest)
          | none => throw s
      | _ => throw rest

/-- Reads the lines of a document; at most `most` statements. -/
def lines (d : Draft) : (most : Nat) → Text → Except Text Draft
  | 0, s => .error s
  | most + 1, s => do
      match ← skipBetween s with
      | [] => return d
      | s =>
          let (d, rest) ← d.statement s
          let rest ← match skipSpaces rest with
            | '#' :: rest => comment rest
            | rest => pure rest
          match rest with
          | [] => return d
          | '\n' :: rest | '\r' :: '\n' :: rest => d.lines most rest
          | rest => throw rest

end Draft

/-- The entries of a TOML document, as a JSON object. -/
def parse (text : Text) : Except Fault Json.Object :=
  let text := match text with
    | '\uFEFF' :: rest => rest
    | _ => text
  match Draft.lines ⟨[], []⟩ (text.length + 1) text with
  | .ok d => .ok (entriesToJson d.entries)
  | .error rest => .error (.locate text rest)

end ClusterRpc.Toml
