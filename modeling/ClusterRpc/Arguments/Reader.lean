import ClusterRpc.Arguments.Basic

/-! # Reading the arguments of a command

The arguments are read from left to right. A flag that takes a value gets it after an equals sign or
as the next argument, unless that looks like a flag. After `--` there are no flags any more. -/

namespace ClusterRpc.Arguments

/-- What is read of a command's arguments. -/
structure Reading where
  /-- The flags given, with their values; the empty value for one that takes none. -/
  flags : List (String × String)
  places : List String
  /-- The last flag if it takes a value, with that value if it is read already. -/
  pending : Option (Flag × Option String)
  /-- The command that follows, and its arguments. -/
  next : Option (String × List String)
deriving Repr

namespace Reading

def empty : Reading := ⟨[], [], none, none⟩

def flag? (r : Reading) (long : String) : Option String := r.flags.lookup long

/-- Counts a flag as given. -/
def give (r : Reading) (flag : Flag) (value : String) : Except Fault Reading :=
  if (r.flag? flag.long).isSome then .error (.repeated flag)
  else .ok { r with flags := r.flags ++ [(flag.long, value)] }

/-- Completes the last flag. -/
def settle (r : Reading) : Except Fault Reading :=
  match r.pending with
  | none => .ok r
  | some (flag, none) => .error (.noValue flag)
  | some (flag, some value) => { r with pending := none }.give flag value

/-- Whether the next argument is the value of the last flag. -/
def awaits (r : Reading) : Bool := r.pending.any (·.2.isNone)

end Reading

/-- The flag that every command has. -/
def helpFlag : Flag := ⟨"help", some 'h', none⟩

def Command.flagWhere (c : Command) (p : Flag → Bool) : Option Flag :=
  (c.flags ++ [helpFlag]).find? p

/-- Takes a flag that is given by itself. -/
def Reading.takeBare (r : Reading) (flag : Flag) : Except Fault Reading := do
  let r ← r.settle
  if flag = helpFlag then throw .help
  match flag.value with
  | some _ => return { r with pending := some (flag, none) }
  | none => r.give flag ""

/-- Reads a flag in its long form, without its dashes. -/
def Command.longFlag (c : Command) (r : Reading) (written : Text) : Except Fault Reading :=
  let name := written.takeWhile (· != '=')
  match c.flagWhere fun f => f.long.toList == name, written.drop name.length with
  | none, _ => .error (.unexpected ("--" ++ String.ofList name))
  | some flag, [] => r.takeBare flag
  | some flag, _ :: value =>
      let value := String.ofList value
      if flag.value.isSome then do (← r.settle).give flag value
      else .error (.needlessValue value flag)

/-- Reads flags in their short form, without their dash. -/
def Command.shortFlags (c : Command) (r : Reading) : Text → Except Fault Reading
  | [] => .ok r
  | letter :: rest =>
      match c.flagWhere fun f => f.short == some letter with
      | none => .error (.unexpected (String.ofList ['-', letter]))
      | some flag =>
          match flag.value, rest with
          | some _, '=' :: value => do (← r.settle).give flag (String.ofList value)
          | some _, _ :: _ => do (← r.settle).give flag (String.ofList rest)
          | _, _ => do
              let r ← r.takeBare flag
              c.shortFlags r rest

/-- Takes an argument that is no flag. `trailing` tells whether a `--` came before. -/
def Command.takePlace (c : Command) (r : Reading) (trailing : Bool) (argument : String) :
    Except Fault Reading :=
  if r.places.length < c.places.length then do
    let r ← r.settle
    return { r with places := r.places ++ [argument] }
  else if c.commands.isEmpty || (trailing && (c.commands.lookup argument).isSome) then
    .error (.unexpected argument)
  else .error (.unknownCommand argument)

/-- Reads the arguments up to the command that follows, if one does. -/
def Command.scan (c : Command) (r : Reading) (trailing : Bool) :
    List String → Except Fault Reading
  | [] => r.settle
  | argument :: rest => do
      if trailing then
        c.scan (← c.takePlace r true argument) true rest
      else if !r.awaits && (c.commands.lookup argument).isSome then
        return { ← r.settle with next := some (argument, rest) }
      else
        match argument.toList with
        | ['-', '-'] => c.scan r true rest
        | '-' :: '-' :: written => c.scan (← c.longFlag r written) false rest
        | '-' :: letter :: letters => c.scan (← c.shortFlags r (letter :: letters)) false rest
        | _ =>
            match r.pending with
            | some (flag, none) =>
                c.scan { r with pending := some (flag, some argument) } false rest
            | _ => c.scan (← c.takePlace r false argument) false rest

/-- Reads the arguments of a command, and checks that nothing is missing. -/
def Command.read (c : Command) (arguments : List String) : Except Fault Reading := do
  let r ← c.scan .empty false arguments
  if r.next.isNone && !c.commands.isEmpty then
    throw (if r.flags.isEmpty then .help else .noCommand)
  let missing := (c.places.drop r.places.length).filter Place.required
  if missing.isEmpty then return r else throw (.missing missing)

end ClusterRpc.Arguments
