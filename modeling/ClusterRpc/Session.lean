import ClusterRpc.Keyed
import ClusterRpc.Text.Blank
import ClusterRpc.Text.Utf8

/-! # Cookies and identity learnt from one endpoint -/

namespace ClusterRpc

/-- What a client remembers of the endpoint it talks to. -/
structure Session where
  cookies : Keyed String
  server : Option String
  authenticated : Bool
deriving DecidableEq, Repr

namespace Session

def fresh : Session := ⟨[], none, false⟩

/-- Stores the cookie of a `Set-Cookie` value, which ends at a comma or semicolon. -/
def storeCookie (session : Session) (value : Text) : Session :=
  match Text.cut '=' (value.takeWhile fun c => c != ',' && c != ';') with
  | none => session
  | some (name, value) =>
      let name := Text.trim name
      if name.isEmpty then session
      else
        { session with
          cookies :=
            session.cookies.insert (String.ofList name) (String.ofList (Text.trim value)) }

/-- Takes in one header line. -/
def readLine (session : Session) (line : Text) : Session :=
  match Text.cut ':' line with
  | none => session
  | some (name, value) =>
      let name := Text.trim name
      let value := Text.trimStart value
      if Text.sameLetters name "set-cookie".toList then session.storeCookie value
      else if Text.sameLetters name "server".toList then
        let version := Text.trimEnd value
        if version.isEmpty then session else { session with server := some (String.ofList version) }
      else session

/-- Takes in every line of a header block; lines end at a carriage return or a line feed. -/
def readHeaders (session : Session) (headers : Bytes) : Session :=
  (Text.splitWhere (fun c => c == '\r' || c == '\n') (Utf8.lossy headers)).foldl readLine session

/-- The header line that sends every cookie back; no line without cookies. -/
def cookieHeader (session : Session) : String :=
  if session.cookies.isEmpty then ""
  else
    "Cookie: " ++ "; ".intercalate (session.cookies.map fun c => c.1 ++ "=" ++ c.2) ++ "\r\n"

def cookie? (session : Session) (name : String) : Option String := session.cookies.find? name

end Session

/-- The endpoint a client talks to, and what it learnt from it. -/
structure Handle where
  hostName : String
  port : Nat
  session : Session
deriving DecidableEq, Repr

namespace Handle

def fresh (hostName : String) (port : Nat) : Handle := ⟨hostName, port, .fresh⟩

def isAt (h : Handle) (hostName : String) (port : Nat) : Bool :=
  h.port == port && h.hostName == hostName

end Handle

end ClusterRpc
