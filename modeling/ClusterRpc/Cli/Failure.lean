import ClusterRpc.Config.Load
import ClusterRpc.Json.Fault
import ClusterRpc.RpcError

/-! # Why a run fails -/

namespace ClusterRpc.Cli

/-- Why log lines cannot be written. -/
inductive LoggingFault where
  | filter (reason : String)
  /-- There is no place for them to go. -/
  | subscriber (reason : String)
deriving DecidableEq, Repr

def LoggingFault.message : LoggingFault → String
  | filter reason => "invalid log filter: " ++ reason
  | subscriber reason => "failed to install telemetry subscriber: " ++ reason

inductive Failure where
  /-- The arguments cannot be read, or help was asked for; the report says it all. -/
  | usage (report : String)
  | settings (causes : List Config.LoadCause)
  | logging (fault : LoggingFault)
  | address (fault : AddressFault)
  | readPayload (cause : IoError)
  | parsePayload (fault : Json.Fault)
  | payloadNotObject
  | writeOutput (cause : IoError)
  | rpc (error : RpcError)

def Failure.message : Failure → String
  | .usage report => report
  | .settings causes => "failed to load configuration: " ++ Config.loadMessage causes
  | .logging fault => fault.message
  | .address fault => "invalid controller address: " ++ fault.message
  | .readPayload cause => "failed to read request payload from stdin: " ++ cause.text
  | .parsePayload fault => "invalid request payload: " ++ fault.message
  | .payloadNotObject => "request payload must be a JSON object"
  | .writeOutput cause => "failed to write output: " ++ cause.text
  | .rpc error => error.message

end ClusterRpc.Cli
