import ClusterRpc.Net.TransportError

/-! # Failures of a client operation -/

namespace ClusterRpc

/-- Why a request or a subscription came to nothing. -/
inductive RpcError where
  | transport (cause : TransportError)
  /-- The reply was not a JSON object behind a header block. -/
  | malformedReply (reason : String)
  | authRequired (message : String)
  /-- A second redirect in a row, to `leader`. -/
  | redirect (leader : String)
  /-- No endpoint known for `url` could be reached; `last` is the last failure seen. -/
  | endpointsExhausted (url : String) (last : Option TransportError)
  | reconnectsExhausted (attempts : Nat) (last : String)
deriving DecidableEq, Repr

namespace RpcError

def message : RpcError → String
  | transport cause => cause.message
  | malformedReply reason => s!"malformed reply from controller: {reason}"
  | authRequired message => s!"authentication required: {message}"
  | redirect leader => s!"controller is not the leader, redirected to {leader}"
  | endpointsExhausted url last =>
      let reason := (last.map TransportError.message).getD "every known endpoint has failed"
      s!"no reachable controller for {url}: {reason}"
  | reconnectsExhausted attempts last =>
      s!"subscription gave up after {attempts} reconnect attempts: {last}"

def kind : RpcError → ErrorKind
  | transport cause => cause.kind
  | malformedReply _ => .malformedReply
  | authRequired _ => .authRequired
  | redirect _ => .redirect
  | endpointsExhausted _ last =>
      (last.map TransportError.kind).getD .connectRefusedOrOther
  | reconnectsExhausted .. => .connectRefusedOrOther

/-- Whether a subscription may try again after this failure. -/
def isReconnectable : RpcError → Bool
  | transport _ | endpointsExhausted .. => true
  | _ => false

end RpcError

end ClusterRpc
