import ClusterRpc.Client.Consumption

/-! # Subscriptions

A subscription outlives its connections. It gets over a limited number of failures in a row; any
event starts the counts afresh. -/

namespace ClusterRpc

/-- Why a subscription ends without an error. -/
inductive SubscriptionEnd where
  | cancelled
deriving DecidableEq, Repr

/-- What went wrong since the last event, by how it is dealt with. -/
structure Tally where
  failures : Nat
  challenges : Nat
  redirects : Nat
deriving DecidableEq, Repr

namespace Tally

def zero : Tally := ⟨0, 0, 0⟩

/-- How many challenges in a row are answered. -/
def maxChallenges : Nat := 3

/-- How many redirects in a row are followed. -/
def maxRedirects : Nat := 1

/-- How much more may go wrong before a subscription with `attempts` reconnects gives up. -/
def left (t : Tally) (attempts : Nat) : Nat :=
  (attempts - t.failures) + (maxChallenges - t.challenges) + (maxRedirects - t.redirects)

end Tally

/-- What a subscription does after one of its connections has ended. -/
inductive Decision where
  | finish (result : Except RpcError SubscriptionEnd)
  /-- Turns to the leader of a redirect. -/
  | follow (targets : RedirectTargets) (tally : Tally)
  /-- Logs in again. -/
  | renew (tally : Tally)
  /-- Pauses and reconnects. -/
  | reconnect (tally : Tally)

namespace Decision

/-- Counts a failure against the limit. -/
def ofFailure (o : ClientOptions) (t : Tally) (reason : String) : Decision :=
  if t.failures + 1 ≤ o.reconnectAttempts then
    .reconnect { t with failures := t.failures + 1 }
  else .finish (.error (.reconnectsExhausted o.reconnectAttempts reason))

/-- What follows from the end of a connection. -/
def of (o : ClientOptions) (t : Tally) (outcome : Except RpcError StreamOutcome) : Decision :=
  match outcome with
  | .ok .cancelled => .finish (.ok .cancelled)
  | .ok .closed => ofFailure o t "controller closed the subscription"
  | .ok (.redirected targets) =>
      if t.redirects + 1 ≤ Tally.maxRedirects then
        .follow targets { t with redirects := t.redirects + 1 }
      else .finish (.error (.redirect targets.leader.label))
  | .error e =>
      if e.kind = .authRequired then
        if o.credentials.isSome ∧ t.challenges + 1 ≤ Tally.maxChallenges then
          .renew { t with challenges := t.challenges + 1 }
        else .finish (.error e)
      else if e.isReconnectable then ofFailure o t e.message
      else .finish (.error e)

/-- The tally with which a subscription goes on, if it does. -/
def tally? : Decision → Option Tally
  | .finish _ => none
  | .follow _ t | .renew t | .reconnect t => some t

theorem left_lt_of_ofFailure {o : ClientOptions} {t u : Tally} {reason : String}
    (h : (ofFailure o t reason).tally? = some u) :
    u.left o.reconnectAttempts < t.left o.reconnectAttempts := by
  simp only [ofFailure] at h
  split at h <;> simp only [tally?, Option.some.injEq, reduceCtorEq] at h
  subst h
  simp only [Tally.left]
  omega

/-- A subscription that goes on has less left to go wrong. -/
theorem left_lt {o : ClientOptions} {t u : Tally} {outcome : Except RpcError StreamOutcome}
    (h : (Decision.of o t outcome).tally? = some u) :
    u.left o.reconnectAttempts < t.left o.reconnectAttempts := by
  rcases outcome with e | (_ | _ | targets)
  · simp only [Decision.of] at h
    split at h
    · split at h <;> simp only [tally?, Option.some.injEq, reduceCtorEq] at h
      rename_i hc
      subst h
      simp only [Tally.left]
      omega
    · split at h
      · exact left_lt_of_ofFailure h
      · simp [tally?] at h
  · simp [Decision.of, tally?] at h
  · exact left_lt_of_ofFailure h
  · simp only [Decision.of] at h
    split at h <;> simp only [tally?, Option.some.injEq, reduceCtorEq] at h
    rename_i hr
    subst h
    simp only [Tally.left]
    omega

end Decision

namespace Client

/-- Whether an event was handed over between two states of a subscription. -/
def progressed (before after : Client) : Bool :=
  (after.delivered.drop before.delivered.length).any Record.isEvent

/-- Lets every failed endpoint be dialled again, once none is left to try. -/
def refreshEndpoints (c : Client) : Client :=
  let (next, directory, world) := c.directory.nextUntried c.world
  { c with directory := if next.isNone then directory.resetFailures else directory, world }

/-- What follows from one attempt of a subscription, and the client after it. An event resets the
tally first. -/
def attempt (o : ClientOptions) (request : SubscriptionRequest) (body : Bytes)
    (subscriber : Subscriber) (t : Tally) (c : Client) : Decision × Client :=
  let result := runStream request body subscriber c
  let c' := finalState result
  let t := if progressed c c' then .zero else t
  let outcome := match result with
    | .ok outcome _ => .ok outcome
    | .error e _ => .error e
  (.of o t outcome, c')

theorem attempt_snd (o : ClientOptions) (request : SubscriptionRequest) (body : Bytes)
    (subscriber : Subscriber) (t : Tally) (c : Client) :
    (attempt o request body subscriber t c).2 =
      finalState (runStream request body subscriber c) := rfl

/-- What is left of a subscription: what there is to read, and then what may go wrong. -/
def subscriptionMeasure (o : ClientOptions) (t : Tally) (c : Client) : Nat × Nat :=
  (c.readable, t.left o.reconnectAttempts)

/-- A subscription that goes on has less left. -/
theorem measure_lt_of_attempt {o : ClientOptions} {request : SubscriptionRequest} {body : Bytes}
    {subscriber : Subscriber} {t u : Tally} {c c' : Client}
    (h : (attempt o request body subscriber t c).1.tally? = some u)
    (hc : c'.readable ≤ (attempt o request body subscriber t c).2.readable) :
    Prod.Lex (· < ·) (· < ·) (subscriptionMeasure o u c') (subscriptionMeasure o t c) := by
  have hk := consuming_runStream request body subscriber c
  rw [attempt_snd] at hc
  have hle := Nat.le_trans hc hk.readable_le
  rcases Nat.lt_or_eq_of_le hle with hlt | heq
  · exact Prod.Lex.left _ _ hlt
  · have hsame : progressed c (finalState (runStream request body subscriber c)) = false := by
      rcases hk.delivered with hd | hd
      · simp [progressed, hd]
      · omega
    simp only [attempt, hsame, Bool.false_eq_true, if_false] at h
    simp only [subscriptionMeasure, heq]
    exact Prod.Lex.right _ (Decision.left_lt h)

theorem readable_pause (w : World) : w.pause.readable = w.readable := by
  simp only [World.pause]
  split
  · rfl
  · exact Link.readable_cue _ _

theorem readable_refreshEndpoints (c : Client) : c.refreshEndpoints.readable = c.readable := by
  simp only [refreshEndpoints, Directory.nextUntried, readable, link, Link.readable]
  exact congrArg (· + _) (readable_load ..)

/-- Runs a subscription: attempt after attempt, until one of them or the flag ends it. -/
def subscriptionLoop (o : ClientOptions) (request : SubscriptionRequest) (body : Bytes)
    (subscriber : Subscriber) (t : Tally) (c : Client) :
    EStateM.Result RpcError Client SubscriptionEnd :=
  if c.world.cancelled then .ok .cancelled c
  else
    match _h : attempt o request body subscriber t c with
    | (.finish (.ok done), c') => .ok done c'
    | (.finish (.error e), c') => .error e c'
    | (.follow targets u, c') =>
        subscriptionLoop o request body subscriber u (followRedirect request.uri targets c')
    | (.renew u, c') => subscriptionLoop o request body subscriber u (c'.setAuthenticated false)
    | (.reconnect u, c') =>
        let paused := { c' with world := c'.world.pause }
        if paused.world.cancelled then .ok .cancelled paused
        else subscriptionLoop o request body subscriber u paused.refreshEndpoints
termination_by subscriptionMeasure o t c
decreasing_by
  all_goals
    have h1 := congrArg Prod.fst _h
    have h2 := congrArg Prod.snd _h
    simp only at h1 h2
    refine measure_lt_of_attempt (by rw [h1]; rfl) ?_
    rw [h2]
  · exact (consumes_followRedirect request.uri targets c').readable_le
  · exact (consumes_setAuthenticated c' false).readable_le
  · rw [readable_refreshEndpoints]
    simp only [readable, link, Link.readable, readable_pause]
    exact Nat.le_refl _

/-- Hands the records of a subscription to a subscriber until the flag is raised. -/
def subscribe (request : SubscriptionRequest) (subscriber : Subscriber) : Action SubscriptionEnd :=
  recording fun c =>
    subscriptionLoop c.options request (payloadBytes request.payload) subscriber .zero
      { c with delivered := [] }

end Client

end ClusterRpc
