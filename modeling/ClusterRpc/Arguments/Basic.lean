import ClusterRpc.Text.Blank

/-! # Commands, their arguments, and what can be wrong with them -/

namespace ClusterRpc.Arguments

/-- A flag of a command: `--long`, and `-s` if it has a short form. -/
structure Flag where
  long : String
  short : Option Char
  /-- What its value is called, if it takes one. -/
  value : Option String
deriving DecidableEq, Repr

def Flag.shown (f : Flag) : String :=
  let long := f.long
  match f.value with
  | some value => s!"--{long} <{value}>"
  | none => s!"--{long}"

/-- An argument that is known by its place. -/
structure Place where
  name : String
  required : Bool
deriving DecidableEq, Repr

def Place.shown (p : Place) : String :=
  let name := p.name
  if p.required then s!"<{name}>" else s!"[{name}]"

/-- A command: either it has commands of its own, of which one has to follow, or it takes arguments
by their place. -/
structure Command where
  /-- The words that call it. -/
  name : String
  about : String
  flags : List Flag
  places : List Place
  commands : List (String × String)
  /-- What its help says about its flags. -/
  flagHelp : List (String × String)
deriving Repr

/-- What can be wrong with the arguments of a command. -/
inductive Fault where
  /-- Help was asked for, or nothing was given to act on. -/
  | help
  | unexpected (argument : String)
  | unknownCommand (name : String)
  | noCommand
  | noValue (flag : Flag)
  | needlessValue (value : String) (flag : Flag)
  | repeated (flag : Flag)
  | missing (places : List Place)
  | invalidValue (value : String) (flag : Flag) (reason : String)
deriving DecidableEq, Repr

/-- What a fault says first. -/
def Fault.complaint (program : String) : Fault → String
  | .help => "help"
  | .unexpected argument => s!"unexpected argument '{argument}' found"
  | .unknownCommand name => s!"unrecognized subcommand '{name}'"
  | .noCommand => s!"'{program}' requires a subcommand but one was not provided"
  | .noValue flag =>
      let flag := flag.shown
      s!"a value is required for '{flag}' but none was supplied"
  | .needlessValue value flag =>
      let flag := flag.shown
      s!"unexpected value '{value}' for '{flag}' found; no more were expected"
  | .repeated flag =>
      let flag := flag.shown
      s!"the argument '{flag}' cannot be used multiple times"
  | .missing places =>
      let lines := String.join (places.map fun p => "\n  " ++ p.shown)
      "the following required arguments were not provided:" ++ lines
  | .invalidValue value flag reason =>
      let flag := flag.shown
      s!"invalid value '{value}' for '{flag}': {reason}"

namespace Command

def usage (c : Command) : String :=
  let places := String.join (c.places.map fun p => " " ++ p.shown)
  let command := if c.commands.isEmpty then "" else " <COMMAND>"
  let name := c.name
  s!"Usage: {name} [OPTIONS]{places}{command}"

/-- Lines of two columns, under a heading; nothing if there are none. -/
def columns (heading : String) (rows : List (String × String)) : String :=
  let width := rows.foldl (fun n row => max n row.1.length) 0
  let line (row : String × String) : String :=
    let gap := String.ofList (List.replicate (width - row.1.length + 2) ' ')
    "  " ++ row.1 ++ gap ++ row.2 ++ "\n"
  if rows.isEmpty then "" else "\n" ++ heading ++ ":\n" ++ String.join (rows.map line)

def help (c : Command) : String :=
  c.about ++ "\n\n" ++ c.usage ++ "\n" ++ columns "Commands" c.commands ++
    columns "Options" c.flagHelp

/-- All that is said about a fault in the arguments of a command. -/
def report (c : Command) (program : String) (fault : Fault) : String :=
  match fault with
  | .help => c.help
  | _ =>
      "error: " ++ fault.complaint program ++ "\n\n" ++ c.usage ++
        "\n\nFor more information, try '--help'.\n"

end Command

end ClusterRpc.Arguments
