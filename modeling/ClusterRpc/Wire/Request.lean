import ClusterRpc.Session

/-! # Requests as they are written to a connection -/

namespace ClusterRpc

/-- A request: its header block, blank line included, and its body. The two are written apart. -/
structure RequestFrame where
  head : Bytes
  body : Bytes
deriving DecidableEq, Repr

/-- A host as it stands before a port: in brackets if it has colons of its own. -/
def bracketed (host : String) : String :=
  if host.toList.contains ':' then s!"[{host}]" else host

/-- The address of an endpoint, for messages. -/
def endpointLabel (host : String) (port : Nat) : String :=
  let host := bracketed host
  s!"{host}:{port}"

namespace RequestFrame

def userAgent : String := "cmonjsclient/1.0"

/-- The header lines of a request, without line ends. -/
def headerLines (uri host : String) (port length : Nat) : List String :=
  let endpoint := endpointLabel host port
  [s!"POST {uri} HTTP/1.0",
    s!"Host: {endpoint}",
    "User-Agent: " ++ userAgent,
    "Connection: close",
    "Accept: application/json",
    "Transfer-Encoding: identity",
    "Content-Type: application/json",
    s!"Content-Length: {length}"]

/-- The request that posts `payload` to `uri`, with the cookies of `session`. -/
def post (uri : String) (payload : Bytes) (host : String) (port : Nat) (session : Session) :
    RequestFrame :=
  let lines := (headerLines uri host port payload.length).map (· ++ "\r\n")
  { head := octets (String.join lines ++ session.cookieHeader ++ "\r\n")
    body := payload }

end RequestFrame

end ClusterRpc
