import ClusterRpc.Reply
import ClusterRpc.Session
import ClusterRpc.Wire.Head

/-! # Whole responses: header block and body -/

namespace ClusterRpc.Response

/-- Whether the header block and the body it declares are there. Without a declared length only the
end of the connection ends the body. -/
def isComplete (s : Bytes) : Bool :=
  match splitHead s with
  | none => false
  | some (head, body) =>
      match (ResponseHead.parse head).contentLength with
      | none => false
      | some length => length ≤ body.length

/-- The body up to its declared length, or why it is too short. -/
def declaredBody (head : ResponseHead) (body : Bytes) : Except String Bytes :=
  match head.contentLength with
  | none => .ok body
  | some length =>
      if length ≤ body.length then .ok (body.take length)
      else
        let count := body.length
        .error s!"reply body truncated at {count} of {length} bytes"

/-- The header block of a response, if it has one. -/
def block? (s : Bytes) : Option Bytes := (splitHead s).map Prod.fst

/-- Reads the reply of a response, or says why there is none. The session takes in the header block
whatever becomes of the body. -/
def parse (s : Bytes) (session : Session) : Except RpcError Reply × Session :=
  match splitHead s with
  | none =>
      let count := s.length
      (.error (.malformedReply s!"reply of {count} bytes has no header terminator"), session)
  | some (head, body) =>
      let parsed := ResponseHead.parse head
      let reply := do
        let body ← declaredBody parsed body
        (Reply.read body).mapError fun reason =>
          match parsed.status with
          | some status => s!"HTTP {status}: {reason}"
          | none => reason
      (reply.mapError .malformedReply, session.readHeaders head)

end ClusterRpc.Response
