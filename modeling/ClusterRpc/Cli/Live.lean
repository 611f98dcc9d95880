import ClusterRpc.Cli.Run

/-! # Live runs

A run is a function of what its connections meet. A live run finds that out as it goes: it is run
on what is known so far, the first event beyond that is made to happen, and what comes of it is
added to what is known. -/

namespace ClusterRpc.Cli

/-! ## What a run looks at -/

/-- The variables a run looks at. -/
def variableNames : List String :=
  ["HOME", "CMON_CONFIG_PATH", "CMON_VERIFY_TLS"] ++
    Config.valueFlags.map fun (long, _) => "CMON_" ++ Config.valueName long

/-- Whether a run takes its payload from standard input. -/
def readsInput (arguments : List String) : Bool :=
  match Order.read (programName arguments.head?) (splitSettings (arguments.drop 1)).2 with
  | .ok order =>
      match order.command with
      | .call _ payload | .subscribe _ payload => payload == some "-"
  | .error _ => false

/-- The settings files a run looks at, as far as its disk tells. -/
def Surroundings.settingsFiles (s : Surroundings) (arguments : List String) : List String :=
  let flagged := match Config.readFlags (splitSettings (arguments.drop 1)).1 with
    | .ok flags => flags.file
    | .error _ => none
  (Config.candidates s.environment flagged).flatMap fun c =>
    Config.lineage s.disk c.path (s.disk.files.length + 1)

/-- The state file of a run whose settings can be loaded. -/
def Surroundings.stateFile? (s : Surroundings) (arguments : List String) : Option String :=
  match Config.load s.environment s.disk (splitSettings (arguments.drop 1)).1 with
  | .ok config => some (config.statePath s.home)
  | .error _ => none

/-! ## What comes of it -/

structure LiveRun where
  arguments : List String
  /-- What is known so far. -/
  surroundings : Surroundings
  /-- How many events have happened. -/
  done : Nat
  /-- How many octets have been written to standard output. -/
  outTold : Nat
  /-- How many octets have been written to standard error. -/
  errTold : Nat

namespace LiveRun

/-- A run before its first event. -/
def start (arguments : List String) (s : Surroundings) : LiveRun := ⟨arguments, s, 0, 0, 0⟩

/-- The run on what is known so far. -/
def outcome (r : LiveRun) : Outcome := run r.surroundings r.arguments

/-- The first event that has not happened yet. -/
def next? (r : LiveRun) : Option Event := r.outcome.world.bind fun w => w.trace[r.done]?

/-- An event has happened as foreseen. -/
def happened (r : LiveRun) : LiveRun := { r with done := r.done + 1 }

/-- A dial has met what it had to meet. -/
def dialled (r : LiveRun) (dial : Dial) : LiveRun :=
  { r.happened with
    surroundings := { r.surroundings with dials := r.surroundings.dials ++ [⟨dial, false⟩] } }

/-- A connection on which nothing has happened yet. -/
def opened : Dial := .answered ⟨false, [], [], []⟩

/-- Adds to what is known of the latest connection. -/
def onConnection (r : LiveRun) (f : Transport → Transport) : LiveRun :=
  let dials := r.surroundings.dials
  let latest := match dials.getLast? with
    | some ⟨.answered transport, cancels⟩ => [⟨.answered (f transport), cancels⟩]
    | other => other.toList
  { r with surroundings := { r.surroundings with dials := dials.dropLast ++ latest } }

/-- A read has met a step. A failure leaves no event behind. -/
def readMet (r : LiveRun) (step : ReadStep) : LiveRun :=
  let r := r.onConnection fun t => { t with reads := t.reads ++ [⟨step, false⟩] }
  match step with
  | .fail _ => r
  | _ => r.happened

/-- A write has met a step. A failure leaves no event behind. -/
def writeMet (r : LiveRun) (step : WriteStep) : LiveRun :=
  let r := r.onConnection fun t => { t with writes := t.writes ++ [⟨step, false⟩] }
  match step with
  | .fail _ => r
  | .accept _ => r.happened

/-- Standard output takes no more than it has taken. -/
def outClosed (r : LiveRun) : LiveRun :=
  { r with surroundings := { r.surroundings with outRoom := some r.outTold } }

/-- Standard error takes no more than it has taken. -/
def errClosed (r : LiveRun) : LiveRun :=
  { r with surroundings := { r.surroundings with errRoom := some r.errTold } }

/-- How long the run pauses between two attempts, in milliseconds. -/
def backoffMs (r : LiveRun) : Nat :=
  match prepare r.surroundings r.arguments with
  | .ok (_, client) => client.options.reconnectBackoffMs
  | .error _ => 0

end LiveRun

end ClusterRpc.Cli
