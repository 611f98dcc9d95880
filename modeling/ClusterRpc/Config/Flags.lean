import ClusterRpc.Arguments.Reader
import ClusterRpc.Config.Fields

/-! # Settings from flags -/

namespace ClusterRpc.Config

/-- How the value of a flag is read. -/
inductive FlagKind where
  | text
  | nat64
  | nat32
  | format
deriving DecidableEq, Repr

/-- The flags with a value, besides the one that names the settings file. -/
def valueFlags : List (String × Char × FlagKind) :=
  [("controller", 'c', .text), ("connect-timeout", 'C', .nat64), ("state-file", 's', .text),
    ("user", 'u', .text), ("password", 'p', .text), ("reconnect-attempts", 'r', .nat32),
    ("reconnect-backoff-ms", 'R', .nat64), ("log-filter", 'l', .text), ("log-format", 'L', .format)]

/-- The name of a setting, as its flag is written. -/
def settingOf (flag : String) : String :=
  String.ofList (flag.toList.map fun c => if c = '-' then '_' else c)

/-- What the value of a flag is called. -/
def valueName (flag : String) : String := String.ofList ((settingOf flag).toList.map Char.toUpper)

def fileFlag : Arguments.Flag := ⟨"config-path", none, some "PATH"⟩

def verifyFlag : Arguments.Flag := ⟨"verify-tls", some 'v', none⟩

/-- The flags of settings, as a command that takes nothing else. -/
def flagCommand : Arguments.Command :=
  { name := "cmonctl"
    about := "Client configuration."
    flags := fileFlag :: verifyFlag ::
      valueFlags.map fun (long, short, _) => ⟨long, some short, some (valueName long)⟩
    places := []
    commands := []
    flagHelp := [] }

/-- An integer of 64 bits that is at least zero and below `2 ^ 32`. -/
def shortNumeral? (s : Text) : Option Nat :=
  match s with
  | '-' :: digits =>
      if digits.head? = some '+' then none else (Text.numeral? 0 digits)
  | _ => Text.numeral? 0xFFFFFFFF s

def FlagKind.read (kind : FlagKind) (value : String) : Except String Json :=
  match kind with
  | .text => .ok (.string value)
  | .nat64 =>
      match Text.numeral? 0xFFFFFFFFFFFFFFFF value.toList with
      | some n => .ok (.ofNat n)
      | none => .error "invalid digit found in string"
  | .nat32 =>
      match shortNumeral? value.toList with
      | some n => .ok (.ofNat n)
      | none => .error "invalid digit found in string"
  | .format =>
      match LogFormat.ofText? value with
      | some f => .ok (.string f.name)
      | none => .error LogFormat.notFound

/-- The settings given by flags. -/
structure FlagSettings where
  /-- The settings file named by a flag. -/
  file : Option String
  settings : Json.Object

/-- Reads the flags of settings. Whether certificates are verified is always settled by the flags:
they are not, unless the flag is there. -/
def readFlags (arguments : List String) : Except Arguments.Fault FlagSettings := do
  let given ← flagCommand.read arguments
  let settings ← valueFlags.foldlM (fun settings (long, short, kind) =>
    match given.flag? long with
    | none => pure settings
    | some value =>
        match kind.read value with
        | .ok v => pure (Keyed.insert settings (settingOf long) v)
        | .error reason =>
            throw (.invalidValue value ⟨long, some short, some (valueName long)⟩ reason)) []
  return {
    file := given.flag? fileFlag.long
    settings := Keyed.insert settings "verify_tls" (.bool (given.flag? verifyFlag.long).isSome) }

end ClusterRpc.Config
