import ClusterRpc.Url.Basic

/-! # The address of a controller -/

namespace ClusterRpc

/-- A controller address, and the text it was configured as. The text is the key of the failover
record, so two spellings of one address have records of their own. -/
structure ControllerAddress where
  configured : String
  host : String
  port : Nat
  useTls : Bool
  /-- Put in front of every request URI; empty if the address has no path. -/
  basePath : String
deriving DecidableEq, Repr

/-- Why a text is not the address of a controller. -/
inductive AddressFault where
  | url (fault : Url.Fault)
  | unsupportedScheme (scheme : String)
  | missingHost (text : String)
deriving DecidableEq, Repr

def AddressFault.message : AddressFault → String
  | .url fault => fault.message
  | .unsupportedScheme scheme => s!"unsupported controller scheme '{scheme}'"
  | .missingHost text => s!"missing controller host in '{text}'"

namespace ControllerAddress

/-- The address of a host, as it would be configured. -/
def ofHost (host : String) (port : Nat) (useTls : Bool) : ControllerAddress :=
  let scheme := if useTls then "https" else "http"
  { configured := s!"{scheme}://{host}:{port}"
    host, port, useTls, basePath := "" }

/-- The port of an address that names none. -/
def defaultPort (useTls : Bool) : Nat := if useTls then 9501 else 9500

/-- Whether connections to an address of this scheme use TLS; none for a scheme that controllers do
not speak. -/
def usesTls? (scheme : String) : Option Bool :=
  match scheme with
  | "https" | "tls" => some true
  | "http" | "tcp" => some false
  | _ => none

/-- A path without the slashes at its end. -/
def withoutEndSlashes (path : Text) : Text := (path.reverse.dropWhile (· == '/')).reverse

/-- Reads the address of a controller. A scheme that is not supported counts before a missing host,
and a URL that cannot be read before both. -/
def parse (text : String) : Except AddressFault ControllerAddress := do
  let (scheme, location?) ← (Url.parse text.toList).mapError .url
  let scheme := String.ofList scheme
  let some useTls := usesTls? scheme | throw (.unsupportedScheme scheme)
  let some location := location? | throw (.missingHost text)
  return {
    configured := text
    host := String.ofList location.host.text
    port := location.port.getD (defaultPort useTls)
    useTls
    basePath := String.ofList (withoutEndSlashes location.path) }

/-- The path of a request. -/
def requestUri (a : ControllerAddress) (uri : String) : String :=
  if uri.toList.head? = some '/' then a.basePath ++ uri else a.basePath ++ "/" ++ uri

end ControllerAddress

end ClusterRpc
