import ClusterRpc.Cli.Command
import ClusterRpc.Cli.Failure
import ClusterRpc.Client.Subscribe

/-! # Runs of the command line -/

namespace ClusterRpc.Cli

/-- What a run finds: environment, files, standard input, the network, and how many octets standard
output and standard error take, if there is a limit. -/
structure Surroundings where
  environment : Environment
  disk : Disk
  stdin : Bytes
  /-- What reading standard input fails with, if it does. -/
  stdinFault : Option IoError := none
  /-- What log lines with the given filter and format fail with, if they do. -/
  logging : String → LogFormat → Option LoggingFault := fun _ _ => none
  dials : List (Cued Dial)
  pauses : List Bool
  cancelled : Bool
  outRoom : Option Nat
  errRoom : Option Nat

/-- What a run leaves behind. -/
structure Outcome where
  exitCode : Nat
  stdout : Bytes
  /-- What is written to standard error, log lines apart. -/
  stderr : Bytes
  /-- The world after the run, if the run got as far as to have a client. -/
  world : Option World
deriving Inhabited

namespace Surroundings

def home (s : Surroundings) : Option String := (s.environment.lookup "HOME").filter (· ≠ "")

/-- The text that is read from standard input. -/
def input (s : Surroundings) : Except IoError Bytes :=
  match s.stdinFault with
  | some cause => .error cause
  | none =>
      if (Bytes.toString? s.stdin).isSome then .ok s.stdin
      else .error ⟨.invalidData, "stream did not contain valid UTF-8"⟩

/-- Prepares for log lines. -/
def startLogging (s : Surroundings) (config : Config) : Except LoggingFault Unit :=
  match s.logging config.filter config.format with
  | some fault => .error fault
  | none => .ok ()

/-- The world of a client that keeps its state in the given file. -/
def world (s : Surroundings) (stateFile : String) : World :=
  { dials := s.dials
    pauses := s.pauses
    cancelled := s.cancelled
    store := .file stateFile s.disk
    trace := [] }

end Surroundings

/-- What a stream with the given room keeps. -/
def kept (room : Option Nat) (written : Bytes) : Bytes :=
  match room with
  | none => written
  | some n => written.take n

/-- Whether a stream with the given room takes everything. -/
def fits (room : Option Nat) (written : Bytes) : Bool := room.all (written.length ≤ ·)

theorem kept_of_fits {room : Option Nat} {written : Bytes} (h : fits room written) :
    kept room written = written := by
  cases room with
  | none => rfl
  | some n => exact List.take_of_length_le (by simpa [fits] using h)

/-- Writing to a stream that takes no more. -/
def brokenPipe : IoError := .ofKind .brokenPipe

/-- A payload as it is given: missing for the empty object, `-` for standard input. -/
def readPayload (argument : Option String) (input : Except IoError Bytes) :
    Except Failure Json := do
  match argument with
  | none => return .object []
  | some argument =>
      let text ← if argument = "-" then input.mapError .readPayload else pure (octets argument)
      let payload ← (Json.parse text).mapError .parsePayload
      if payload.object?.isSome then return payload else throw .payloadNotObject

/-- What is to be done with a client. -/
inductive Task where
  | call (uri : String) (payload : Json) (allowRedirect : Bool)
  | subscribe (request : SubscriptionRequest)

/-- A subscription to the default stream, unless something else is asked for. -/
def subscription (uri payload : Option String) (input : Except IoError Bytes) :
    Except Failure SubscriptionRequest := do
  if uri.isNone && payload.isNone then return .events
  else return ⟨uri.getD SubscriptionRequest.events.uri, ← readPayload payload input⟩

/-- The task of an order. -/
def Order.task (order : Order) (input : Except IoError Bytes) : Except Failure Task := do
  match order.command with
  | .call uri payload => return .call uri (← readPayload payload input) order.allowRedirect
  | .subscribe uri payload => return .subscribe (← subscription uri payload input)

/-- Everything before the first connection: the arguments are read before the settings, these before
the payload, and the controller's address last. Log lines start once the settings are there. -/
def prepare (s : Surroundings) (arguments : List String) : Except Failure (Task × Client) := do
  let split := splitArguments arguments
  let command := commandArguments arguments split
  let order ← (Order.read (programName command.head?) (command.drop 1)).mapError .usage
  let config ← (Config.load s.environment s.disk (split.settings.drop 1)).mapError .settings
  (s.startLogging config).mapError .logging
  let task ← order.task s.input
  let options ← config.clientOptions.mapError .address
  return (task, .fresh options (s.world (config.statePath s.home)))

/-! ## Output -/

/-- Events go to standard output, one a line. -/
def eventLines (records : List Record) : Bytes :=
  records.flatMap fun
    | .event fields => octets ((Json.object fields).compact ++ "\n")
    | .reply _ => []

/-- Replies within a stream go to standard error, one a line. -/
def replyLines (records : List Record) : Bytes :=
  records.flatMap fun
    | .event _ => []
    | .reply r => octets ((Json.object r.fields).compact ++ "\n")

/-- An event that cannot be written ends the subscription. -/
def subscriber (s : Surroundings) : Subscriber := fun records =>
  !fits s.outRoom (eventLines records)

/-- Performs a task: what it writes to either stream, how it ends, and the world after it. -/
def perform (s : Surroundings) (task : Task) (client : Client) :
    Bytes × Bytes × Except Failure Nat × World :=
  match task with
  | .call uri payload allowRedirect =>
      match Client.call uri payload allowRedirect client with
      | .error e c => ([], [], .error (.rpc e), c.world)
      | .ok reply c =>
          let out := octets ((Json.object reply.fields).pretty ++ "\n")
          let result :=
            if !fits s.outRoom out then .error (.writeOutput brokenPipe)
            else .ok (if reply.isOk then 0 else 1)
          (out, [], result, c.world)
  | .subscribe request =>
      let (ending, c) : Except RpcError SubscriptionEnd × Client :=
        match Client.subscribe request (subscriber s) client with
        | .error e c => (.error e, c)
        | .ok ending c => (.ok ending, c)
      let out := eventLines c.delivered
      let err := replyLines c.delivered
      let result :=
        if !(fits s.outRoom out && fits s.errRoom err) then .error (.writeOutput brokenPipe)
        else match ending with
          | .ok _ => .ok 0
          | .error e => .error (.rpc e)
      (out, err, result, c.world)

/-- Ends a run. A failure is told on standard error. -/
def finish (s : Surroundings) (out err : Bytes) (result : Except Failure Nat)
    (world : Option World) : Outcome :=
  let (code, told) : Nat × Bytes := match result with
    | .ok code => (code, [])
    | .error failure => (1, octets (failure.message ++ "\n"))
  { exitCode := code
    stdout := kept s.outRoom out
    stderr := kept s.errRoom (err ++ told)
    world }

/-- A run with the given arguments, of which the first is the name of the program. -/
def run (s : Surroundings) (arguments : List String) : Outcome :=
  match prepare s arguments with
  | .error failure => finish s [] [] (.error failure) none
  | .ok (task, client) =>
      let (out, err, result, world) := perform s task client
      finish s out err result (some world)

end ClusterRpc.Cli
