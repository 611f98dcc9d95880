import ClusterRpc.Client.Basic
import ClusterRpc.Config.LogFormat

/-! # Settings and their defaults -/

namespace ClusterRpc

/-- The settings of a client. A setting that is missing has a default. -/
structure Config where
  controller : Option String
  /-- Seconds allowed for connecting, and for each read and write. -/
  connectTimeout : Option Nat
  verifyTls : Option Bool
  stateFile : Option String
  user : Option String
  password : Option String
  reconnectAttempts : Option Nat
  reconnectBackoffMs : Option Nat
  logFilter : Option String
  logFormat : Option LogFormat
deriving DecidableEq, Repr

namespace Config

def controllerText (c : Config) : String := c.controller.getD "https://localhost:9501"

def controllerAddress (c : Config) : Except AddressFault ControllerAddress :=
  ControllerAddress.parse c.controllerText

def timeoutSecs (c : Config) : Nat := c.connectTimeout.getD 10

def verifiesTls (c : Config) : Bool := c.verifyTls.getD false

/-- The name of a place below a directory. -/
def below (directory name : String) : String :=
  if directory.toList.getLast? = some '/' then directory ++ name else s!"{directory}/{name}"

/-- The state file of a user without settings. -/
def defaultStateFile (home : Option String) : String :=
  below (below (home.getD ".") ".cmon") "cmon.state"

/-- The state file of a user with the given home directory. -/
def statePath (c : Config) (home : Option String) : String :=
  c.stateFile.getD (defaultStateFile home)

/-- User name and password, if both are set. -/
def credentials (c : Config) : Option Credentials := do
  return ⟨← c.user, ← c.password⟩

def attempts (c : Config) : Nat := c.reconnectAttempts.getD 5

def backoffMs (c : Config) : Nat := c.reconnectBackoffMs.getD 1000

def filter (c : Config) : String := c.logFilter.getD "info"

def format (c : Config) : LogFormat := c.logFormat.getD .compact

/-- What a client takes from its settings. -/
def clientOptions (c : Config) : Except AddressFault ClientOptions := do
  return {
    controller := ← c.controllerAddress
    timeoutMs := 1000 * c.timeoutSecs
    verifyTls := c.verifiesTls
    credentials := c.credentials
    reconnectAttempts := c.attempts
    reconnectBackoffMs := c.backoffMs }

end Config

end ClusterRpc
