import ClusterRpc.Client.Connect
import ClusterRpc.Wire.Response

/-! # One-shot calls

A connection serves one request. A call may take a few: it follows one redirect, and it answers one
challenge by logging in. -/

namespace ClusterRpc

/-- How many octets one read asks for. -/
def readChunk : Nat := 512

/-- Reads until the response in the buffer is complete or the stream ends. -/
def Link.receive (buffer : ReceiveBuffer) (l : Link) : EStateM.Result TransportError Link Bytes :=
  if Response.isComplete buffer.bytes then .ok buffer.bytes l
  else
    match _h : Link.read readChunk l with
    | .error e l => .error e l
    | .ok chunk l' =>
        if _hne : chunk = [] then .ok buffer.bytes l' else receive (buffer.append chunk) l'
termination_by l.pending
decreasing_by exact Link.pending_read_ok _h _hne

namespace Client

/-- Makes the request that posts `body` to `uri`, for the current handle. -/
def frame (uri : String) (body : Bytes) : Action RequestFrame := fun c =>
  match c.handle with
  | none => .error (.transport .notConnected) c
  | some h =>
      let frame :=
        RequestFrame.post (c.options.controller.requestUri uri) body h.hostName h.port h.session
      .ok frame (c.note (.request uri h frame))

/-- Writes a request. If that fails the channel is closed. -/
def send (frame : RequestFrame) : Action Unit := fun c =>
  match onLink (do Link.writeAll frame.head; Link.writeAll frame.body) c with
  | .ok () c => .ok () c
  | .error e c => .error e c.hangUp

/-- Turns a response into its reply; the session of the handle takes in the header block. -/
def takeResponse (raw : Bytes) : Action Reply := fun c =>
  match c.handle with
  | none => .error (.transport .notConnected) c
  | some h =>
      let (reply, session) := Response.parse raw h.session
      let c := c.learn h (Response.block? raw) session
      match reply with
      | .ok reply => .ok reply c
      | .error e => .error e c

/-- Sends one request over the open channel, takes its response and closes the channel. -/
def transact (uri : String) (body : Bytes) : Action Reply := do
  let frame ← frame uri body
  noting uri do
    send frame
    let raw ← closing (onLink (Link.receive .empty))
    takeResponse raw

/-- Sends one request and takes its response, over a connection of its own. -/
def exchange (uri : String) (body : Bytes) (useRedirect : Bool) : Action Reply := do
  ensureConnected useRedirect
  transact uri body

/-- Remembers where a redirect of a request for `uri` leads, as far as the store lets it, and turns
to the leader. -/
def followRedirect (uri : String) (targets : RedirectTargets) (c : Client) : Client :=
  let c := c.note (.follow uri targets)
  let (_, directory, world) := c.directory.rememberRedirect targets c.world
  { c with directory, world }.hangUp.takeHandle targets.leader.hostName targets.leader.port

/-- Exchanges until there is a reply to give back. Redirects, if allowed, are followed at most
`hops` times. A challenge is answered with `login`, at most `logins` times; without a `login` it is
a reply like any other. -/
def converse (uri : String) (body : Bytes) (allowRedirect : Bool) (login : Option (Action Unit))
    (hops logins : Nat) : Action Reply := do
  let reply ← exchange uri body allowRedirect
  if reply.isRedirect && allowRedirect then
    match reply.redirectTargets? with
    | none => throw (.malformedReply "redirect reply names no leader")
    | some targets =>
        match hops with
        | 0 => throw (.redirect targets.leader.label)
        | hops + 1 =>
            modify (followRedirect uri targets)
            converse uri body allowRedirect login hops logins
  else
    match reply.isAuthRequired, login with
    | true, some answer =>
        match logins with
        | 0 => throw (.authRequired reply.errorString)
        | logins + 1 =>
            answer
            converse uri body allowRedirect login hops logins
    | _, _ => return reply
termination_by hops + logins

/-- The URI of the login call. -/
def loginUri : String := "/v2/auth"

def loginPayload (credentials : Credentials) : Json :=
  .ofFields [("operation", .string "authenticateWithPassword"),
    ("user_name", .string credentials.user), ("password", .string credentials.password)]

/-- The octets of a request payload. -/
def payloadBytes (payload : Json) : Bytes := octets payload.compact

/-- Logs in at the current endpoint, or where a redirect of the login leads. -/
def login (allowRedirect : Bool) : Action Unit := do
  match (← get).options.credentials with
  | none => throw (.authRequired "no credentials configured")
  | some credentials =>
      let reply ← converse loginUri (payloadBytes (loginPayload credentials)) allowRedirect none 1 0
      if !reply.isOk then throw (.authRequired reply.errorString)
      modify (·.setAuthenticated true)

/-- Sends a payload and gives back the reply. A challenge to the login call itself is such a
reply. -/
def request (uri : String) (payload : Json) (allowRedirect : Bool) : Action Reply := do
  let logins := if (← get).options.credentials.isSome then 1 else 0
  let answer := if uri = loginUri then none else some (login allowRedirect)
  converse uri (payloadBytes payload) allowRedirect answer 1 logins

/-! ## The operations of a client -/

def connect (useRedirect : Bool) : Action Unit := recording (ensureConnected useRedirect)

/-- Connects afresh, without the old handle. -/
def reconnect (useRedirect : Bool) : Action Unit := do
  modify close
  connect useRedirect

def authenticate : Action Unit := recording (login true)

def call (uri : String) (payload : Json) (allowRedirect : Bool) : Action Reply :=
  recording (request uri payload allowRedirect)

end Client

end ClusterRpc
