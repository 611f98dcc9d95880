import ClusterRpc.Json.Reader
import ClusterRpc.RpcError
import ClusterRpc.Text.Blank

/-! # Replies of a controller -/

namespace ClusterRpc

/-- The address of one controller, as a redirect gives it. -/
structure RedirectTarget where
  hostName : String
  ip : Option String
  port : Nat
deriving DecidableEq, Repr

/-- The controllers a redirect names. -/
structure RedirectTargets where
  leader : RedirectTarget
  followers : List RedirectTarget
deriving DecidableEq, Repr

/-- The largest port number. -/
def maxPort : Nat := 0xFFFF

namespace RedirectTarget

/-- A field that holds a text, and not the empty one. -/
def text? (fields : Json.Object) (key : String) : Option String :=
  ((fields.find? key).bind Json.string?).filter (!·.isEmpty)

/-- A port is an integer or the text of one. -/
def port? : Json → Option Nat
  | .number (.integer n) => if 0 ≤ n ∧ n ≤ maxPort then some n.toNat else none
  | .string s => Text.numeral? maxPort s.toList
  | _ => none

/-- The target that an object describes. It needs a port, and a host name or an address. -/
def ofJson? (v : Json) : Option RedirectTarget := do
  let fields ← v.object?
  let ip := text? fields "ip"
  let hostName ← (text? fields "hostname").or ip
  let port ← (fields.find? "port").bind port?
  some ⟨hostName, ip, port⟩

/-- The address of the target, for messages. -/
def label (t : RedirectTarget) : String :=
  let host := t.hostName
  let port := t.port
  s!"{host}:{port}"

end RedirectTarget

/-- One JSON object received from a controller. -/
structure Reply where
  fields : Json.Object
deriving DecidableEq, Repr

namespace Reply

def get? (r : Reply) (key : String) : Option Json := r.fields.find? key

def status? (r : Reply) : Option String := (r.get? "requestStatus").bind Json.string?

def isOk (r : Reply) : Bool := r.status? == some "ok"

def isRedirect (r : Reply) : Bool := r.status? == some "Redirect"

def isAuthRequired (r : Reply) : Bool := r.status? == some "AuthRequired"

/-- The text of the error, or else the status. -/
def errorString (r : Reply) : String :=
  (((r.get? "errorString").bind Json.string?).or r.status?).getD ""

/-- The leader, if the reply names a usable one, and every usable follower. -/
def redirectTargets? (r : Reply) : Option RedirectTargets := do
  let leader ← (r.get? "leader").bind RedirectTarget.ofJson?
  let followers := ((r.get? "followers").bind Json.array?).getD []
  some ⟨leader, followers.filterMap RedirectTarget.ofJson?⟩

/-- What a value is called when an object was expected. -/
def foundName : Json → String
  | .null => "null"
  | .bool _ => "a boolean"
  | .number _ => "a number"
  | .string _ => "a string"
  | .array _ => "an array"
  | .object _ => "an object"

/-- Reads one JSON object; otherwise says why there is none. -/
def read (text : Bytes) : Except String Reply :=
  match Json.parse text with
  | .ok (.object fields) => .ok ⟨fields⟩
  | .ok other => .error ("expected a JSON object, found " ++ foundName other)
  | .error fault => .error fault.message

/-- The reply that a JSON text holds. -/
def decode (text : Bytes) : Except RpcError Reply := (read text).mapError .malformedReply

end Reply

end ClusterRpc
