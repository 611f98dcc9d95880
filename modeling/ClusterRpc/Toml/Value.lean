import ClusterRpc.Json.Value

/-! # TOML values -/

namespace ClusterRpc.Toml

/-- How a table came about, which decides what may still be added to it. -/
inductive Origin where
  /-- Written between braces: complete. -/
  | braces
  /-- Only named on the way to another table. -/
  | passed
  /-- Opened by a header of its own. -/
  | header
  /-- Made by a key with dots. -/
  | dotted
deriving DecidableEq, Repr

inductive Value where
  | string (text : String)
  | integer (value : Int)
  | real (value : Binary64)
  | bool (value : Bool)
  /-- An infinity or no number at all, as it is written. -/
  | notFinite (text : String)
  /-- A date, a time or both, as it is written. -/
  | date (text : String)
  | array (items : List Value)
  | table (origin : Origin) (entries : List (String × Value))
  /-- The tables under one repeated header, the latest first. -/
  | tables (elements : List (List (String × Value)))
deriving Repr

/-- The entries of a table, in the order they were written. -/
abbrev Entries := List (String × Value)

/-- A value that JSON has no form for, as an object that says what it is. -/
def foreign (kind text : String) : Json := .object [(kind, .string text)]

mutual

def Value.toJson : Value → Json
  | .string text => .string text
  | .integer value => .number (.integer value)
  | .real value => .number (.real value)
  | .bool value => .bool value
  | .notFinite text => foreign "float" text
  | .date text => foreign "date" text
  | .array items => .array (itemsToJson items)
  | .table _ entries => .object (entriesToJson entries)
  | .tables elements => .array (elementsToJson elements).reverse

def itemsToJson : List Value → List Json
  | [] => []
  | v :: rest => v.toJson :: itemsToJson rest

/-- The entries in the order of their keys. -/
def entriesToJson : List (String × Value) → Json.Object
  | [] => []
  | (key, v) :: rest => (entriesToJson rest).insert key v.toJson

def elementsToJson : List (List (String × Value)) → List Json
  | [] => []
  | entries :: rest => .object (entriesToJson entries) :: elementsToJson rest

end

/-! ## Building a document -/

def Entries.find? (entries : Entries) (key : String) : Option Value := entries.lookup key

/-- Sets an entry in its place, or adds it at the end. -/
def Entries.set (entries : Entries) (key : String) (v : Value) : Entries :=
  if (entries.lookup key).isSome then
    entries.map fun e => if e.1 = key then (key, v) else e
  else entries ++ [(key, v)]

/-- Adds the value of a key with dots. Nothing is set twice, and no table is added to that was not
made by a key with dots itself. -/
def Entries.addDotted (entries : Entries) (v : Value) : List String → Option Entries
  | [] => none
  | [key] => if (entries.find? key).isNone then some (entries.set key v) else none
  | key :: rest =>
      match entries.find? key with
      | none => do
          let inner ← Entries.addDotted [] v rest
          return entries.set key (.table .dotted inner)
      | some (.table .dotted inner) => do
          let inner ← Entries.addDotted inner v rest
          return entries.set key (.table .dotted inner)
      | some _ => none

/-- Changes the table at the end of a path of headers. A name that is missing becomes a table, and
of repeated tables the latest is meant. -/
def Entries.within (change : Entries → Option Entries) (entries : Entries) :
    List String → Option Entries
  | [] => change entries
  | key :: rest =>
      match entries.find? key with
      | none => do
          let inner ← Entries.within change [] rest
          return entries.set key (.table .passed inner)
      | some (.table .braces _) => none
      | some (.table origin inner) => do
          let inner ← Entries.within change inner rest
          return entries.set key (.table origin inner)
      | some (.tables (latest :: earlier)) => do
          let latest ← Entries.within change latest rest
          return entries.set key (.tables (latest :: earlier))
      | some _ => none

/-- Opens a table by its header. It must not have been opened before. -/
def Entries.openTable (key : String) (entries : Entries) : Option Entries :=
  match entries.find? key with
  | none => some (entries.set key (.table .header []))
  | some (.table .passed inner) => some (entries.set key (.table .header inner))
  | some _ => none

/-- Opens a further table of a repeated header. -/
def Entries.openElement (key : String) (entries : Entries) : Option Entries :=
  match entries.find? key with
  | none => some (entries.set key (.tables [[]]))
  | some (.tables elements) => some (entries.set key (.tables ([] :: elements)))
  | some _ => none

end ClusterRpc.Toml
