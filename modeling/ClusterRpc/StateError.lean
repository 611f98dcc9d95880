import ClusterRpc.Json.Fault
import ClusterRpc.Net.IoError

/-! # Failures of the state store -/

namespace ClusterRpc

/-- Why persisted state could not be read or replaced. -/
inductive StateError where
  | read (path : String) (cause : IoError)
  | parse (path : String) (cause : Json.Fault)
  | write (path : String) (cause : IoError)
deriving DecidableEq, Repr

def StateError.message : StateError → String
  | read path cause => s!"failed to read state file {path}: " ++ cause.text
  | parse path cause => s!"failed to parse state file {path}: " ++ cause.message
  | write path cause => s!"failed to write state file {path}: " ++ cause.text

end ClusterRpc
