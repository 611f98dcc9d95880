import ClusterRpc.ErrorKind
import ClusterRpc.Net.IoError

/-! # Failures of one connection -/

namespace ClusterRpc

/-- Why a controller could not be dialled, written to or read from. -/
inductive TransportError where
  | hostNotFound (endpoint reason : String)
  | connectTimeout (endpoint : String)
  | connectRefused (endpoint : String) (cause : IoError)
  /-- The TLS client could not be set up. -/
  | tlsConfig (reason : String)
  | tlsHandshake (endpoint reason : String)
  | write (endpoint : String) (cause : IoError)
  | read (endpoint : String) (cause : IoError)
  /-- Nothing arrived within the read timeout. -/
  | readTimeout (endpoint : String)
  | notConnected
deriving DecidableEq, Repr

namespace TransportError

def message : TransportError → String
  | hostNotFound endpoint reason => s!"failed to resolve {endpoint}: {reason}"
  | connectTimeout endpoint => s!"timed out connecting to {endpoint}"
  | connectRefused endpoint cause => s!"failed to connect to {endpoint}: " ++ cause.text
  | tlsConfig reason => s!"failed to prepare TLS client: unexpected error: {reason}"
  | tlsHandshake endpoint reason => s!"TLS handshake with {endpoint} failed: {reason}"
  | write endpoint cause => s!"failed to write to {endpoint}: " ++ cause.text
  | read endpoint cause => s!"failed to read from {endpoint}: " ++ cause.text
  | readTimeout endpoint => s!"timed out reading from {endpoint}"
  | notConnected => "channel is not connected"

def kind : TransportError → ErrorKind
  | hostNotFound .. => .hostNotFound
  | connectTimeout .. => .connectTimeout
  | connectRefused .. | notConnected => .connectRefusedOrOther
  | tlsConfig .. | tlsHandshake .. => .tlsHandshakeFailed
  | write .. => .writeFailed
  | read .. | readTimeout .. => .readFailed

/-- Whether another controller may succeed where this one failed. -/
def isFailover : TransportError → Bool
  | hostNotFound .. | connectTimeout .. | connectRefused .. | tlsHandshake .. => true
  | _ => false

def isReadTimeout : TransportError → Bool
  | readTimeout .. => true
  | _ => false

end TransportError

end ClusterRpc
