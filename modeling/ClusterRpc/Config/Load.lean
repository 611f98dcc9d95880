import ClusterRpc.Config.Flags
import ClusterRpc.Config.Environment
import ClusterRpc.Store.Disk
import ClusterRpc.Toml.Document

/-! # Loading settings

Settings come in layers: a settings file, the environment, the flags. A later layer replaces what an
earlier one sets, and only the settings that remain have to be of the right type. -/

namespace ClusterRpc.Config

/-- Why settings cannot be loaded. -/
inductive LoadCause where
  | flags (fault : Arguments.Fault)
  /-- Without flags there is no last layer. -/
  | noFlags
  | file (path reason : String)
  | field (fault : FieldFault)
deriving DecidableEq, Repr

def LoadCause.message : LoadCause → String
  | .flags fault =>
      "Failed to parse command-line arguments: " ++ flagCommand.report "cmonctl" fault
  | .noFlags => "Failed to gather configuration: no command-line layer"
  | .file path reason => s!"Configuration file error in '{path}': {reason}"
  | .field fault =>
      let fault := fault.message
      s!"Failed to gather configuration: {fault}"

/-- The text of one cause, or of several under a heading. -/
def loadMessage : List LoadCause → String
  | [cause] => cause.message
  | causes =>
      "multiple configuration errors:" ++ String.join (causes.map fun c => "\n" ++ c.message)

/-! ## Settings files -/

/-- The name of the settings file in a home directory. -/
def homeFile : String := ".cmon.toml"

/-- What follows the last full stop of a file's name. -/
def extension (path : String) : String :=
  String.ofList (((path.toList.reverse.takeWhile (· != '.')).reverse).map Char.toLower)

/-- The directory of a file, as it is written. -/
def directoryOf (path : String) : String :=
  String.ofList (path.toList.reverse.dropWhile (· != '/')).reverse

/-- The settings in one file, or nothing if there is no such file. -/
def readOneFile (disk : Disk) (path : String) : Except LoadCause (Option Json.Object) :=
  match disk.read path with
  | .error _ => .ok none
  | .ok content =>
      if ["json", "json5", "yaml", "yml"].contains (extension path) then
        .error (.file path "unsupported file format")
      else match Utf8.decode content with
        | .error _ => .error (.file path "stream did not contain valid UTF-8")
        | .ok text =>
            match Toml.parse text with
            | .ok settings => .ok (some settings)
            | .error fault => .error (.file path fault.message)

/-- Lays the settings of `upper` over those of `lower`. -/
def overlay (lower upper : Json.Object) : Json.Object :=
  upper.foldl (fun settings e => settings.insert e.1 e.2) lower

/-- The file whose settings those of another file build on, if they name one. -/
def extended (path : String) (settings : Json.Object) : Except LoadCause (Option String) :=
  match settings.find? "extends" with
  | none => .ok none
  | some (.string base) =>
      .ok (some (if base.toList.head? = some '/' then base else directoryOf path ++ base))
  | some _ => .error (.file path "'extends' key must be a string")

/-- The settings in a file, over those of the file it extends, if it names one, and so on for at
most `most` files. -/
def readFile (disk : Disk) (path : String) : (most : Nat) → Except LoadCause (Option Json.Object)
  | 0 => .error (.file path "cyclic extends detected")
  | most + 1 => do
      match ← readOneFile disk path with
      | none => return none
      | some settings =>
          match ← extended path settings with
          | none => return some settings
          | some base =>
              match ← readFile disk base most with
              | some lower => return some (overlay lower settings)
              | none => throw (.file base "extended configuration file not found")

/-- A file that settings may come from, and whether it has to exist. -/
structure Candidate where
  path : String
  required : Bool
deriving DecidableEq, Repr

/-- The files that settings may come from, the first choice first. -/
def candidates (env : Environment) (flagged : Option String) : List Candidate :=
  let named := (env.lookup "CMON_CONFIG_PATH").filter (· ≠ "")
  let home := (env.lookup "HOME").filter (· ≠ "")
  (flagged.map (⟨·, true⟩)).toList ++ (named.map (⟨·, false⟩)).toList ++
    (home.map fun home => ⟨below home homeFile, false⟩).toList ++ [⟨homeFile, false⟩]

/-- A settings file and the files it builds on, as far as the disk tells, at most `most`. -/
def lineage (disk : Disk) (path : String) : (most : Nat) → List String
  | 0 => []
  | most + 1 =>
      path :: match readOneFile disk path with
        | .ok (some settings) =>
            match extended path settings with
            | .ok (some base) => lineage disk base most
            | _ => []
        | _ => []

/-- The settings of the first file that can be read. The faults of files that have to exist count in
any case, those of others only if no file can be read. -/
def discover (disk : Disk) : List Candidate → (required optional : List LoadCause) →
    Json.Object × List LoadCause
  | [], required, optional => ([], required ++ optional)
  | c :: rest, required, optional =>
      match readFile disk c.path (disk.files.length + 1) with
      | .ok (some settings) => (settings, required)
      | .ok none =>
          if c.required then
            let cause := .file c.path "required configuration file not found"
            discover disk rest (required ++ [cause]) optional
          else discover disk rest required optional
      | .error cause =>
          if c.required then discover disk rest (required ++ [cause]) optional
          else discover disk rest required (optional ++ [cause])

/-- Loads settings for the given arguments, without the name of the program. -/
def load (env : Environment) (disk : Disk) (arguments : List String) :
    Except (List LoadCause) Config :=
  let (flags, flagFaults) : FlagSettings × List LoadCause := match readFlags arguments with
    | .ok flags => (flags, [])
    | .error fault => (⟨none, []⟩, [.flags fault, .noFlags])
  let (fileSettings, fileFaults) := discover disk (candidates env flags.file) [] []
  let merged := overlay (overlay fileSettings env.settings) flags.settings
  match flagFaults ++ fileFaults, ofJson (.object merged) with
  | [], .ok config => .ok config
  | faults, .ok _ => .error faults
  | faults, .error fault => .error (faults ++ [.field fault])

end ClusterRpc.Config
