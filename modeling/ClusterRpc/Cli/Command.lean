import ClusterRpc.Arguments.Reader
import ClusterRpc.Client.Stream
import ClusterRpc.Config.Flags

/-! # The command line of `cmonctl`

Flags of settings come first, then the command with flags and arguments of its own. Arguments are
text: what the system passes on that is not Unicode is not considered. -/

namespace ClusterRpc.Cli

/-- What a run is asked to do. -/
inductive Command where
  /-- Send one request. -/
  | call (uri : String) (payload : Option String)
  /-- Stream events. -/
  | subscribe (uri payload : Option String)
deriving DecidableEq, Repr

/-- A command, and whether it may leave the configured controller. -/
structure Order where
  command : Command
  allowRedirect : Bool
deriving DecidableEq, Repr

/-! ## Settings in front -/

/-- The flags of settings that take a value. -/
def valueFlags : List String :=
  Config.fileFlag.long :: Config.valueFlags.map fun (long, _) => long

/-- Splits the flags of settings, with their values, off the front. -/
def splitSettings : List String → List String × List String
  | [] => ([], [])
  | argument :: rest =>
      let name := argument.toList.takeWhile (· != '=')
      let isFlag (long : String) : Bool := name == ('-' :: '-' :: long.toList)
      if isFlag Config.verifyFlag.long || (valueFlags.any isFlag && name != argument.toList) then
        let (settings, command) := splitSettings rest
        (argument :: settings, command)
      else if valueFlags.any isFlag then
        match rest with
        | [] => ([argument], [])
        | value :: rest =>
            let (settings, command) := splitSettings rest
            (argument :: value :: settings, command)
      else ([], argument :: rest)

/-- Nothing is lost and nothing is moved. -/
theorem splitSettings_append (arguments : List String) :
    (splitSettings arguments).1 ++ (splitSettings arguments).2 = arguments := by
  fun_induction splitSettings arguments <;> simp_all

/-- The arguments of a run taken apart. -/
structure ArgumentSplit where
  /-- The name of the program and the flags of settings with their values. -/
  settings : List String
  /-- The place among the arguments where the command starts. -/
  commandStart : Nat
deriving DecidableEq, Repr

/-- Takes the arguments of a run apart, of which the first is the name of the program. -/
def splitArguments : List String → ArgumentSplit
  | [] => ⟨[], 0⟩
  | program :: rest =>
      let settings := (splitSettings rest).1
      ⟨program :: settings, settings.length + 1⟩

/-- The name of the program, and the arguments that are left for the command. -/
def commandArguments (arguments : List String) (split : ArgumentSplit) : List String :=
  arguments.take 1 ++ arguments.drop split.commandStart

theorem drop_settings_splitArguments (arguments : List String) :
    (splitArguments arguments).settings.drop 1 = (splitSettings (arguments.drop 1)).1 := by
  cases arguments <;> rfl

theorem head?_commandArguments (arguments : List String) :
    (commandArguments arguments (splitArguments arguments)).head? = arguments.head? := by
  cases arguments <;> rfl

theorem drop_commandArguments (arguments : List String) :
    (commandArguments arguments (splitArguments arguments)).drop 1 =
      (splitSettings (arguments.drop 1)).2 := by
  cases arguments with
  | nil => rfl
  | cons program rest =>
      have happend := splitSettings_append rest
      calc rest.drop (splitSettings rest).1.length
          = ((splitSettings rest).1 ++ (splitSettings rest).2).drop (splitSettings rest).1.length :=
            by rw [happend]
        _ = (splitSettings rest).2 := List.drop_left

/-! ## Commands -/

def redirectFlag : Arguments.Flag := ⟨"no-redirect", none, none⟩

def uriFlag : Arguments.Flag := ⟨"uri", none, some "URI"⟩

def payloadFlag : Arguments.Flag := ⟨"payload", none, some "PAYLOAD"⟩

def redirectHelp : String × String :=
  ("    --no-redirect",
    "Talk to the configured controller only; ignore failover records and redirect replies")

def helpHelp : String × String := ("-h, --help", "Print help")

def callCommand : Arguments.Command :=
  { name := "cmonctl call"
    about := "Sends one request and prints the reply"
    flags := [redirectFlag]
    places := [⟨"URI", true⟩, ⟨"PAYLOAD", false⟩]
    commands := []
    flagHelp := [redirectHelp, helpHelp] }

def subscribeCommand : Arguments.Command :=
  { name := "cmonctl subscribe"
    about := "Streams controller events until interrupted"
    flags := [redirectFlag, uriFlag, payloadFlag]
    places := []
    commands := []
    flagHelp :=
      [("    --uri <URI>", "Subscription URI; defaults to the cluster event stream"),
        ("    --payload <PAYLOAD>", "JSON subscription payload, or `-` to read it from stdin"),
        redirectHelp, helpHelp] }

def topCommand : Arguments.Command :=
  { name := "cmonctl"
    about := "Command-line interface for the cmon controller client"
    flags := [redirectFlag]
    places := []
    commands := [("call", callCommand.about), ("subscribe", subscribeCommand.about)]
    flagHelp := [redirectHelp, helpHelp] }

/-- The name a program goes by: the last part of the path it was called by. -/
def programName (called : Option String) : String :=
  let name := ((called.getD "").toList.reverse.takeWhile (· != '/')).reverse
  if name.isEmpty then topCommand.name else String.ofList name

/-- Reads a command and its arguments; a failure is all that is said about it. -/
def Order.read (program : String) (arguments : List String) : Except String Order := do
  let report (c : Arguments.Command) (f : Arguments.Fault) : String := c.report program f
  let top ← (topCommand.read arguments).mapError (report topCommand)
  let (name, arguments) := top.next.getD ("", [])
  let command := if name = "call" then callCommand else subscribeCommand
  let given ← (command.read arguments).mapError (report command)
  let noRedirect (r : Arguments.Reading) : Bool := (r.flag? redirectFlag.long).isSome
  return {
    command :=
      if name = "call" then .call (given.places[0]?.getD "") given.places[1]?
      else .subscribe (given.flag? uriFlag.long) (given.flag? payloadFlag.long)
    allowRedirect := !(noRedirect top || noRedirect given) }

end ClusterRpc.Cli
