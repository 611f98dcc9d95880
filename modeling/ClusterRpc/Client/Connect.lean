import ClusterRpc.Client.Basic

/-! # Connecting, with failover -/

namespace ClusterRpc.Client

/-- The endpoint to try first: that of the handle, or else the configured one. -/
def preferred (c : Client) : String × Nat :=
  match c.handle with
  | some handle => (handle.hostName, handle.port)
  | none => (c.directory.configured.hostName, c.directory.configured.port)

/-- Opens the channel to an endpoint and takes up a handle on it. -/
def dial (hostName : String) (port : Nat) (c : Client) : EStateM.Result TransportError Client Unit :=
  match Link.connect hostName port c.options.transportSettings c.link with
  | .ok () l => .ok () ((c.withLink l).takeHandle hostName port)
  | .error e l => .error e (c.withLink l)

/-- Dials the candidates that have not failed, one after the other, until one answers or none is
left. `last` is the failure of the dial before. -/
def walk (last : Option TransportError) (c : Client) : EStateM.Result RpcError Client Unit :=
  match _h : c.directory.firstUntried with
  | none => .error (.endpointsExhausted c.directory.url last) c
  | some e =>
      match c.dial e.hostName e.port with
      | .ok () c => .ok () c
      | .error failure tried =>
          if failure.isFailover then
            walk (some failure)
              { tried with
                lastError := some failure.message
                directory := c.directory.flag e.hostName e.port }
          else .error (.transport failure) tried
termination_by c.directory.untried
decreasing_by exact Directory.untried_flag_lt _h

/-- Dials the preferred endpoint, and then the others, unless it is known to have failed. -/
def failover : Action Unit := fun c =>
  let (hostName, port) := c.preferred
  if c.directory.isFailed hostName port then
    let (directory, world) := c.directory.ensureLoaded c.world
    walk none { c with directory, world }
  else
    match c.dial hostName port with
    | .ok () c => .ok () c
    | .error failure c =>
        if failure.isFailover then
          let (directory, world) := c.directory.markFailed hostName port c.world
          walk (some failure) { c with lastError := some failure.message, directory, world }
        else .error (.transport failure) c

/-- Dials the preferred endpoint and no other. -/
def dialPreferred : Action Unit := fun c =>
  match c.dial c.preferred.1 c.preferred.2 with
  | .ok () c => .ok () c
  | .error failure c => .error (.transport failure) c

/-- Makes sure that the channel is open. With redirects, other endpoints stand in for one that
cannot be reached. -/
def ensureConnected (useRedirect : Bool) : Action Unit := do
  if (← get).channel.isConnected then return
  if useRedirect then failover else dialPreferred

end ClusterRpc.Client
