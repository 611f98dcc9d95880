import ClusterRpc.Client.Call

/-! # One connection of a subscription -/

namespace ClusterRpc

/-- What a subscription asks for. -/
structure SubscriptionRequest where
  uri : String
  payload : Json
deriving DecidableEq

/-- The subscription to the events of a cluster. -/
def SubscriptionRequest.events : SubscriptionRequest :=
  ⟨"/v2/clusters/", .ofFields [("operation", .string "subscribeEvents")]⟩

/-- Whether a subscriber raises the flag, given the records handed to it so far, the latest one
last. -/
abbrev Subscriber := List Record → Bool

/-- How one connection of a subscription ends, if not by a failure. -/
inductive StreamOutcome where
  | cancelled
  | closed
  | redirected (targets : RedirectTargets)
deriving DecidableEq, Repr

def Record.isEvent : Record → Bool
  | .event _ => true
  | .reply _ => false

namespace Client

/-- Hands a record to the subscriber. -/
def handOver (subscriber : Subscriber) (record : Record) (c : Client) : Client :=
  let delivered := c.delivered ++ [record]
  { c with delivered, world := (c.world.emit (.deliver record)).cue (subscriber delivered) }

/-- What a record means for the connection it came on, once it is handed over. A redirect to a
usable leader and a challenge end it. -/
def verdict : Record → Option (Except RpcError StreamOutcome)
  | .event _ => none
  | .reply r =>
      match r.isRedirect, r.redirectTargets? with
      | true, some targets => some (.ok (.redirected targets))
      | _, _ => if r.isAuthRequired then some (.error (.authRequired r.errorString)) else none

/-- Hands records over in turn, until one of them or the flag ends the connection. -/
def handOverAll (subscriber : Subscriber) :
    List (Except RpcError Record) → Client → Option (Except RpcError StreamOutcome) × Client
  | [], c => (none, c)
  | .error e :: _, c => (some (.error e), c)
  | .ok record :: rest, c =>
      let c := c.handOver subscriber record
      match verdict record with
      | some outcome => (some outcome, c)
      | none =>
          if c.world.cancelled then (some (.ok .cancelled), c)
          else handOverAll subscriber rest c

theorem handOverAll_channel (subscriber : Subscriber) (records : List (Except RpcError Record))
    (c : Client) : (handOverAll subscriber records c).2.channel = c.channel := by
  fun_induction handOverAll subscriber records c with
  | case1 | case2 | case3 | case4 => rfl
  | case5 record rest c c' _ _ ih => exact ih

theorem handOverAll_handle (subscriber : Subscriber) (records : List (Except RpcError Record))
    (c : Client) : (handOverAll subscriber records c).2.handle = c.handle := by
  fun_induction handOverAll subscriber records c with
  | case1 | case2 | case3 | case4 => rfl
  | case5 record rest c c' _ _ ih => exact ih

/-- Reads and hands over until the connection or the subscription ends. A read that only meets its
timeout is tried again. -/
def pump (subscriber : Subscriber) (stream : RecordStream) (c : Client) :
    EStateM.Result RpcError Client StreamOutcome :=
  if c.world.cancelled then .ok .cancelled c
  else
    match _h : Link.read readChunk c.link with
    | .error e l =>
        if _ht : e.isReadTimeout then pump subscriber stream (c.withLink l)
        else .error (.transport e) (c.withLink l)
    | .ok chunk l =>
        if _hne : chunk = [] then .ok .closed (c.withLink l)
        else
          match c.handle with
          | none => .error (.transport .notConnected) (c.withLink l)
          | some handle =>
              let fed := stream.feed chunk
              let drained := fed.drain handle.session
              let c' := (c.withLink l).learn handle fed.block? drained.2.2
              match _hd : handOverAll subscriber drained.1 c' with
              | (none, c'') => pump subscriber drained.2.1 c''
              | (some (.ok outcome), c'') => .ok outcome c''
              | (some (.error e), c'') => .error e c''
termination_by c.link.pending
decreasing_by
  · exact Link.pending_read_timeout _h _ht
  · have hc : c''.channel = l.channel := by
      rw [← show _ = c'' from congrArg Prod.snd _hd]
      exact (handOverAll_channel ..).trans (learn_channel ..)
    have hp := Link.pending_read_ok _h _hne
    rw [show c''.link.pending = l.pending from Link.pending_congr hc]
    exact hp

/-- Opens the subscription, logging in first if there are credentials, and pumps its records. -/
def runStream (request : SubscriptionRequest) (body : Bytes) (subscriber : Subscriber) :
    Action StreamOutcome := do
  modify (·.note .attempt)
  let c ← get
  if c.options.credentials.isSome && !c.isAuthenticated then login true
  ensureConnected true
  send (← frame request.uri body)
  closing (pump subscriber .fresh)

end Client

end ClusterRpc
