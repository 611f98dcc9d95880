import ClusterRpc.ControllerAddress
import ClusterRpc.Directory
import ClusterRpc.Net.Channel
import ClusterRpc.Text.Quoted

/-! # A client and its actions -/

namespace ClusterRpc

/-- User name and password. -/
structure Credentials where
  user : String
  password : String
deriving DecidableEq

/-- The credentials as they may be shown: without the password. -/
def Credentials.shown (c : Credentials) : String :=
  let user := quote c.user
  let password := quote "<redacted>"
  "Credentials \x7b user: " ++ user ++ ", password: " ++ password ++ " \x7d"

/-- How a client connects and logs in. -/
structure ClientOptions where
  controller : ControllerAddress
  timeoutMs : Nat
  verifyTls : Bool
  credentials : Option Credentials
  /-- How many failures in a row a subscription gets over. -/
  reconnectAttempts : Nat
  reconnectBackoffMs : Nat
deriving DecidableEq

def ClientOptions.transportSettings (o : ClientOptions) : TransportSettings :=
  ⟨o.timeoutMs, o.controller.useTls, o.verifyTls⟩

/-- A client, in the world it runs in. -/
structure Client where
  options : ClientOptions
  channel : Channel
  directory : Directory
  handle : Option Handle
  /-- The text of the latest failure. -/
  lastError : Option String
  /-- The records handed to the subscriber of the current subscription. -/
  delivered : List Record
  world : World

namespace Client

/-- A client that has not done anything yet. -/
def fresh (options : ClientOptions) (world : World) : Client :=
  { options
    channel := .disconnected
    directory := .fresh options.controller.configured options.controller.host
      options.controller.port
    handle := none
    lastError := none
    delivered := []
    world }

/-- An action of a client. It may fail, and what it did until then remains. -/
abbrev Action := EStateM RpcError Client

def link (c : Client) : Link := ⟨c.channel, c.world⟩

def withLink (c : Client) (l : Link) : Client := { c with channel := l.channel, world := l.world }

/-- Acts on the channel. -/
def onLink {α : Type} (x : Link.Action α) : Action α := fun c =>
  match x c.link with
  | .ok a l => .ok a (c.withLink l)
  | .error e l => .error (.transport e) (c.withLink l)

/-- Leaves an event behind. -/
def note (c : Client) (e : Event) : Client := { c with world := c.world.emit e }

/-- Closes the channel. The handle stays. -/
def hangUp (c : Client) : Client :=
  let (channel, world) := c.channel.close c.world
  { c with channel, world }

/-- Takes up a handle on an endpoint. The one already held is kept if it is for that endpoint. -/
def takeHandle (c : Client) (hostName : String) (port : Nat) : Client :=
  if c.handle.any (·.isAt hostName port) then c
  else { c.note (.adopt hostName port) with handle := some (.fresh hostName port) }

/-- Gives the handle a session that has taken in a header block, if there was one. -/
def learn (c : Client) (handle : Handle) (block : Option Bytes) (session : Session) : Client :=
  let c := { c with handle := some { handle with session } }
  match block with
  | none => c
  | some block => c.note (.learn block)

@[simp] theorem learn_channel (c : Client) (handle : Handle) (block : Option Bytes)
    (session : Session) : (c.learn handle block session).channel = c.channel := by
  cases block <;> rfl

/-- Whether the current endpoint has accepted a login. -/
def isAuthenticated (c : Client) : Bool := c.handle.any (·.session.authenticated)

def setAuthenticated (c : Client) (authenticated : Bool) : Client :=
  match c.handle with
  | none => c
  | some h =>
      { c.note (.mark authenticated) with
        handle := some { h with session := { h.session with authenticated } } }

/-- Does `x` and closes the channel, whether `x` succeeds or not. -/
def closing {α : Type} (x : Action α) : Action α := fun c =>
  match x c with
  | .ok a c => .ok a c.hangUp
  | .error e c => .error e c.hangUp

/-- Does `x`, an exchange for `uri`, and notes what it brings. -/
def noting (uri : String) (x : Action Reply) : Action Reply := fun c =>
  match x c with
  | .ok reply c => .ok reply (c.note (.reply uri reply))
  | .error e c => .error e (c.note (.failure uri e))

/-- Does `x` and remembers the text of its failure. -/
def recording {α : Type} (x : Action α) : Action α := fun c =>
  match x c with
  | .ok a c => .ok a c
  | .error e c => .error e { c with lastError := some e.message }

/-- Closes the channel and lets go of the handle. -/
def close (c : Client) : Client := { c.hangUp with handle := none }

end Client

end ClusterRpc
