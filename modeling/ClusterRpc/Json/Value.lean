import ClusterRpc.Keyed
import ClusterRpc.Number.Binary64

/-! # JSON values -/

namespace ClusterRpc

namespace Json

/-- A JSON number: an integer of 64 bits, signed or unsigned, or a double. -/
inductive Number where
  | integer (value : Int)
  | real (value : Binary64)
deriving DecidableEq, Repr

end Json

/-- A JSON value. The entries of an object are in increasing order of their keys. -/
inductive Json where
  | null
  | bool (value : Bool)
  | number (value : Json.Number)
  | string (value : String)
  | array (items : List Json)
  | object (fields : List (String × Json))
deriving Repr, Inhabited

namespace Json

/-- The entries of a JSON object. -/
abbrev Object := Keyed Json

mutual

/-- Equality of values is decided by walking both. -/
def decEq : (a b : Json) → Decidable (a = b)
  | .null, .null => .isTrue rfl
  | .bool a, .bool b =>
      if h : a = b then .isTrue (congrArg Json.bool h) else .isFalse (h ∘ Json.bool.inj)
  | .number a, .number b =>
      if h : a = b then .isTrue (congrArg Json.number h) else .isFalse (h ∘ Json.number.inj)
  | .string a, .string b =>
      if h : a = b then .isTrue (congrArg Json.string h) else .isFalse (h ∘ Json.string.inj)
  | .array a, .array b =>
      match decEqItems a b with
      | .isTrue h => .isTrue (congrArg Json.array h)
      | .isFalse h => .isFalse (h ∘ Json.array.inj)
  | .object a, .object b =>
      match decEqFields a b with
      | .isTrue h => .isTrue (congrArg Json.object h)
      | .isFalse h => .isFalse (h ∘ Json.object.inj)
  | .null, .bool _ | .null, .number _ | .null, .string _ | .null, .array _ | .null, .object _
  | .bool _, .null | .bool _, .number _ | .bool _, .string _ | .bool _, .array _
  | .bool _, .object _ | .number _, .null | .number _, .bool _ | .number _, .string _
  | .number _, .array _ | .number _, .object _ | .string _, .null | .string _, .bool _
  | .string _, .number _ | .string _, .array _ | .string _, .object _ | .array _, .null
  | .array _, .bool _ | .array _, .number _ | .array _, .string _ | .array _, .object _
  | .object _, .null | .object _, .bool _ | .object _, .number _ | .object _, .string _
  | .object _, .array _ => .isFalse nofun

def decEqItems : (a b : List Json) → Decidable (a = b)
  | [], [] => .isTrue rfl
  | a :: as, b :: bs =>
      match decEq a b, decEqItems as bs with
      | .isTrue h, .isTrue k => .isTrue (by rw [h, k])
      | .isFalse h, _ => .isFalse fun e => h (List.cons.inj e).1
      | _, .isFalse k => .isFalse fun e => k (List.cons.inj e).2
  | [], _ :: _ | _ :: _, [] => .isFalse nofun

def decEqFields : (a b : List (String × Json)) → Decidable (a = b)
  | [], [] => .isTrue rfl
  | (k, a) :: as, (l, b) :: bs =>
      if h : k = l then
        match decEq a b, decEqFields as bs with
        | .isTrue h', .isTrue h'' => .isTrue (by rw [h, h', h''])
        | .isFalse h', _ => .isFalse fun e => h' (Prod.mk.inj (List.cons.inj e).1).2
        | _, .isFalse h'' => .isFalse fun e => h'' (List.cons.inj e).2
      else .isFalse fun e => h (Prod.mk.inj (List.cons.inj e).1).1
  | [], _ :: _ | _ :: _, [] => .isFalse nofun

end

instance : DecidableEq Json := decEq

def ofNat (n : Nat) : Json := .number (.integer n)

def ofInt (n : Int) : Json := .number (.integer n)

/-- The object with the given entries; of two with one key the later counts. -/
def ofFields (entries : List (String × Json)) : Json := .object (Keyed.ofList entries)

def string? : Json → Option String
  | .string s => some s
  | _ => none

def array? : Json → Option (List Json)
  | .array items => some items
  | _ => none

def object? : Json → Option Object
  | .object fields => some fields
  | _ => none

/-- The value of a field, if this is an object that has it. -/
def field? (v : Json) (key : String) : Option Json :=
  v.object?.bind fun fields => fields.find? key

end Json

end ClusterRpc
