import ClusterRpc.Config.Basic
import ClusterRpc.Json.Printer

/-! # Settings as a JSON object

Each setting is a field, and a field that is null counts as missing. Other fields are ignored. -/

namespace ClusterRpc.Config

/-- Why a JSON value is no setting. -/
inductive FieldFault where
  | wrongType (found : Json) (expected : String)
  | outOfRange (value : Int) (expected : String)
  | unknownFormat (name : String)
  /-- A format written as an object needs exactly one field. -/
  | notOneField
  | wrongLength (length : Nat) (expected : String)
deriving DecidableEq, Repr

def FieldFault.message : FieldFault → String
  | .wrongType found expected =>
      let found := found.described
      s!"invalid type: {found}, expected {expected}"
  | .outOfRange value expected => s!"invalid value: integer `{value}`, expected {expected}"
  | .unknownFormat name => s!"unknown variant `{name}`, expected `json` or `compact`"
  | .notOneField => "invalid value: map, expected map with a single key"
  | .wrongLength length expected => s!"invalid length {length}, expected {expected}"

/-- A way to read the value of a setting. -/
abbrev Reading (α : Type) := Json → Except FieldFault α

/-- A missing value reads as none. -/
def optional {α : Type} (read : Reading α) (v : Json) : Except FieldFault (Option α) :=
  match v with
  | .null => .ok none
  | _ => (read v).map some

def readString (expected : String) : Reading String
  | .string s => .ok s
  | v => .error (.wrongType v expected)

def readBool : Reading Bool
  | .bool b => .ok b
  | v => .error (.wrongType v "a boolean")

/-- A natural number of the given number of bits. -/
def readNat (bits : Nat) : Reading Nat
  | .number (.integer n) =>
      if 0 ≤ n ∧ n < Nat.pow 2 bits then .ok n.toNat else .error (.outOfRange n s!"u{bits}")
  | v => .error (.wrongType v s!"u{bits}")

def readFormatName (name : String) : Except FieldFault LogFormat :=
  match LogFormat.ofName? name with
  | some f => .ok f
  | none => .error (.unknownFormat name)

/-- A format is its name, or an object whose one field has that name and nothing in it. -/
def readFormat : Reading LogFormat
  | .string name => readFormatName name
  | .object [(name, v)] => do
      let format ← readFormatName name
      if v = .null then return format else throw (.wrongType v "unit")
  | .object _ => .error .notOneField
  | v => .error (.wrongType v "string or map")

/-- The settings given by the value of each field. The fields are read in the order of their
names. -/
def readFields (value : String → Json) : Except FieldFault Config := do
  let connectTimeout ← optional (readNat 64) (value "connect_timeout")
  let controller ← optional (readString "a string") (value "controller")
  let logFilter ← optional (readString "a string") (value "log_filter")
  let logFormat ← optional readFormat (value "log_format")
  let password ← optional (readString "a string") (value "password")
  let reconnectAttempts ← optional (readNat 32) (value "reconnect_attempts")
  let reconnectBackoffMs ← optional (readNat 64) (value "reconnect_backoff_ms")
  let stateFile ← optional (readString "a UTF-8 path string") (value "state_file")
  let user ← optional (readString "a string") (value "user")
  let verifyTls ← optional readBool (value "verify_tls")
  return { controller, connectTimeout, verifyTls, stateFile, user, password, reconnectAttempts,
           reconnectBackoffMs, logFilter, logFormat }

/-- The settings given by the ten values of an array, in the order of the structure. -/
def readItems (items : List Json) : Except FieldFault Config := do
  let missing (n : Nat) : FieldFault := .wrongLength n "struct Config with 10 elements"
  let item {α : Type} (n : Nat) (read : Reading α) : Except FieldFault (Option α) :=
    match items[n]? with
    | some v => optional read v
    | none => throw (missing n)
  let controller ← item 0 (readString "a string")
  let connectTimeout ← item 1 (readNat 64)
  let verifyTls ← item 2 readBool
  let stateFile ← item 3 (readString "a UTF-8 path string")
  let user ← item 4 (readString "a string")
  let password ← item 5 (readString "a string")
  let reconnectAttempts ← item 6 (readNat 32)
  let reconnectBackoffMs ← item 7 (readNat 64)
  let logFilter ← item 8 (readString "a string")
  let logFormat ← item 9 readFormat
  if 10 < items.length then throw (.wrongLength items.length "fewer elements in array")
  return { controller, connectTimeout, verifyTls, stateFile, user, password, reconnectAttempts,
           reconnectBackoffMs, logFilter, logFormat }

/-- The settings that a JSON value holds. -/
def ofJson : Json → Except FieldFault Config
  | .object fields => readFields fun name => (Keyed.find? fields name).getD .null
  | .array items => readItems items
  | v => .error (.wrongType v "struct Config")

/-- The settings as a JSON object, with null for each that is missing. -/
def toJson (c : Config) : Json :=
  let text (s : Option String) : Json := (s.map Json.string).getD .null
  let nat (n : Option Nat) : Json := (n.map Json.ofNat).getD .null
  Json.ofFields
    [("controller", text c.controller), ("connect_timeout", nat c.connectTimeout),
      ("verify_tls", (c.verifyTls.map Json.bool).getD .null), ("state_file", text c.stateFile),
      ("user", text c.user), ("password", text c.password),
      ("reconnect_attempts", nat c.reconnectAttempts),
      ("reconnect_backoff_ms", nat c.reconnectBackoffMs), ("log_filter", text c.logFilter),
      ("log_format", text (c.logFormat.map LogFormat.name))]

end ClusterRpc.Config
