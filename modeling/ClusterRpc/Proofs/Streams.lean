import ClusterRpc.Proofs.Completion
import ClusterRpc.Proofs.Delivery
import ClusterRpc.Proofs.Leader

/-!
# The stream connections of a subscription

Each connection is known by how many dials are still to come once it is open. A call closes the
channel behind it, and so does an attempt; so no connection carries more than one stream, and none
of those that carry one is used to log in.
-/

namespace ClusterRpc.Client

/-! ## Connections that are closed -/

def Closed (c : Client) : Prop := c.channel.isConnected = false

/-- Where the channel is open there is a handle. -/
def Held (c : Client) : Prop := c.channel.isConnected = true → c.handle.isSome = true

section

variable {c c' : Client}

theorem Closed.held (h : Closed c) : Held c := fun hopen => by
  rw [show c.channel.isConnected = false from h] at hopen
  cases hopen

theorem closed_hangUp (c : Client) : Closed c.hangUp := by
  rw [hangUp_disconnected]
  rfl

/-- A client that was closed and is not has made a dial. -/
theorem OpensByDial.lt (h : OpensByDial c c') (hc : Closed c)
    (hopen : c'.channel.isConnected = true) : c'.world.dials.length < c.world.dials.length := by
  rcases h hopen with hopen | hlt
  · rw [show c.channel.isConnected = false from hc] at hopen
    cases hopen
  · exact hlt

theorem dial_held (a : Address) (c : Client) :
    match c.dial a.1 a.2 with
    | .ok _ c' => Held c'
    | .error _ c' => Closed c' := by
  have hdial := dial_spec a c
  rcases hr : c.dial a.1 a.2 with ⟨⟨⟩, c'⟩ | ⟨e, c'⟩ <;> rw [hr] at hdial
  · obtain ⟨-, -, -, hat⟩ := hdial
    intro _
    cases hh : c'.handle with
    | none => rw [hh] at hat; cases hat
    | some handle => rfl
  · obtain ⟨-, -, hchannel, -⟩ := hdial
    exact congrArg Channel.isConnected hchannel

theorem ensures_walk_held (last : Option TransportError) :
    Ensures Closed (walk last) (fun _ => Held) Closed := by
  intro c hc
  fun_induction walk last c with
  | case1 => exact hc
  | case2 last c e _ c' hd =>
      have hdial := dial_held e.address c
      rw [show c.dial e.address.1 e.address.2 = _ from hd] at hdial
      exact hdial
  | case3 last c e _ failure tried hd _ ih =>
      have hdial := dial_held e.address c
      rw [show c.dial e.address.1 e.address.2 = _ from hd] at hdial
      exact ih hdial
  | case4 last c e _ failure tried hd _ =>
      have hdial := dial_held e.address c
      rw [show c.dial e.address.1 e.address.2 = _ from hd] at hdial
      exact hdial

theorem ensures_ensureConnected_held (useRedirect : Bool) :
    Ensures Held (ensureConnected useRedirect) (fun _ => Held) Closed := by
  intro c hc
  have hdial := dial_held c.preferred c
  rw [ensureConnected_eq]
  cases hopen : c.channel.isConnected with
  | true => exact hc
  | false =>
      rw [if_neg Bool.false_ne_true]
      cases useRedirect with
      | true =>
          simp only [if_true, failover]
          cases c.directory.isFailed c.preferred.1 c.preferred.2 with
          | true => exact ensures_walk_held none _ hopen
          | false =>
              rcases hr : c.dial c.preferred.1 c.preferred.2 with ⟨⟨⟩, c'⟩ | ⟨e, c'⟩ <;>
                rw [hr] at hdial
              · exact hdial
              · cases hfailover : e.isFailover with
                | true =>
                    simp only [hfailover, Bool.false_eq_true, if_false, if_true]
                    exact ensures_walk_held (some e) _ hdial
                | false =>
                    simp only [hfailover, Bool.false_eq_true, if_false]
                    exact hdial
      | false =>
          simp only [dialPreferred, Bool.false_eq_true, if_false]
          rcases hr : c.dial c.preferred.1 c.preferred.2 with ⟨⟨⟩, c'⟩ | ⟨e, c'⟩ <;>
            rw [hr] at hdial <;> exact hdial

/-- An exchange leaves the channel closed. -/
theorem closed_exchange (uri : String) (body : Bytes) (useRedirect : Bool) (hc : Held c) :
    Closed (finalState (exchange uri body useRedirect c)) := by
  have hconnect := ensures_ensureConnected_held useRedirect c hc
  rcases hr : ensureConnected useRedirect c with ⟨⟨⟩, c'⟩ | ⟨e, c'⟩ <;> rw [hr] at hconnect
  · have hopen := isConnected_of_ensureConnected hr
    obtain ⟨handle, hh⟩ := Option.isSome_iff_exists.1 (hconnect hopen)
    obtain ⟨_, _, _, _, _, -, -, hfinal, -⟩ := transact_spec uri body hopen hh
    rw [exchange_of_connected hr, hfinal]
    rfl
  · simp only [exchange, Bind.bind, EStateM.bind, hr]
    exact hconnect

/-- A conversation leaves the channel closed, if answering a challenge does. -/
theorem ensures_converse_closed (uri : String) (body : Bytes) (allowRedirect : Bool)
    {login : Option (Action Unit)}
    (hl : ∀ x, login = some x → Ensures Closed x (fun _ => Closed) Closed) (hops logins : Nat) :
    Ensures Held (converse uri body allowRedirect login hops logins) (fun _ => Closed) Closed := by
  have hexchange : Ensures Held (exchange uri body allowRedirect) (fun _ => Closed) Closed := by
    intro c hc
    have hclosed := closed_exchange uri body allowRedirect hc
    cases hr : exchange uri body allowRedirect c <;> rw [hr] at hclosed <;> exact hclosed
  fun_induction converse uri body allowRedirect login hops logins with
  | case1 hops logins ih ih' =>
      refine hexchange.bind fun reply => ?_
      split
      · split
        · exact Ensures.throw
        · split
          · exact Ensures.throw
          · refine Ensures.bind (Q := fun _ => Held) (Ensures.modify fun c _ => ?_) fun _ => ih
            exact (show Closed _ by rw [Closed, closed_followRedirect]; rfl).held
      · split
        · split
          · exact Ensures.throw
          · exact ((hl _ rfl).mono (fun _ hclosed => hclosed) (fun _ _ hclosed => hclosed.held)
              fun _ hclosed => hclosed).bind fun _ => ih'
        · exact fun _ hclosed => hclosed

/-- A login leaves the channel closed, unless it is open and there are no credentials. -/
theorem closed_login {allowRedirect : Bool} (hc : Held c)
    (h : c.options.credentials.isSome = true ∨ Closed c) :
    Closed (finalState (login allowRedirect c)) := by
  cases hcredentials : c.options.credentials with
  | none =>
      rw [hcredentials] at h
      simp only [Client.login, Bind.bind, EStateM.bind, get_apply, hcredentials]
      exact h.resolve_left Bool.false_ne_true
  | some credentials =>
      have hnone : ∀ x, (none : Option (Action Unit)) = some x →
          Ensures Closed x (fun _ => Closed) Closed := by
        intro x hx
        cases hx
      have hconverse := ensures_converse_closed loginUri (payloadBytes (loginPayload credentials))
        allowRedirect hnone 1 0 c hc
      simp only [Client.login, Bind.bind, EStateM.bind, get_apply, hcredentials]
      rcases hr : converse loginUri (payloadBytes (loginPayload credentials)) allowRedirect none 1 0
        c with ⟨reply, c'⟩ | ⟨e, c'⟩ <;> rw [hr] at hconverse
      · dsimp only
        cases reply.isOk with
        | false => exact hconverse
        | true =>
            change Closed (c'.setAuthenticated true)
            rw [setAuthenticated]
            split <;> exact hconverse
      · exact hconverse

theorem closed_logIn (hc : Held c) (h : c.logsIn = true) : Closed (finalState (logIn c)) := by
  rw [logIn_of_logsIn h]
  rw [logsIn, Bool.and_eq_true] at h
  exact closed_login hc (.inl h.1)

/-- Without a handle an open channel is of no use to an attempt. -/
theorem runStream_of_not_held {request : SubscriptionRequest} {body : Bytes}
    {subscriber : Subscriber} (hopen : c.channel.isConnected = true) (hh : c.handle = none) :
    runStream request body subscriber c =
      .error (.transport .notConnected) (c.note .attempt) := by
  have hconnect : ensureConnected true (c.note .attempt) = .ok () (c.note .attempt) := by
    rw [ensureConnected_eq]
    exact if_pos hopen
  have hframe (uri : String) (body : Bytes) : frame uri body (c.note .attempt) =
      .error (.transport .notConnected) (c.note .attempt) := by
    simp only [frame, show (c.note .attempt).handle = none from hh]
  rw [runStream_apply]
  cases hlogs : (c.note .attempt).logsIn with
  | false =>
      simp only [listen, writeRequest, Bind.bind, EStateM.bind, logIn_of_skipped hlogs, hconnect,
        hframe]
  | true =>
      have hexchange (uri : String) (body : Bytes) : exchange uri body true (c.note .attempt) =
          .error (.transport .notConnected) (c.note .attempt) := by
        simp only [exchange, transact, Bind.bind, EStateM.bind, hconnect, hframe]
      have hlogin : login true (c.note .attempt) =
          .error (.transport .notConnected) (c.note .attempt) := by
        have hcredentials := hlogs
        rw [logsIn, Bool.and_eq_true, Option.isSome_iff_exists] at hcredentials
        obtain ⟨⟨credentials, hcredentials⟩, -⟩ := hcredentials
        simp only [login, Bind.bind, EStateM.bind, get_apply, hcredentials]
        rw [converse]
        simp only [Bind.bind, EStateM.bind, hexchange]
      simp only [Bind.bind, EStateM.bind, logIn_of_logsIn hlogs, hlogin]

end

/-! ## Which connections carry a stream -/

/-- How many dials are still to come once the stream connection of an attempt is open. -/
def streamOf (request : SubscriptionRequest) (body : Bytes) (c : Client) : Option Nat :=
  match opening request body c with
  | .ok _ c' => some c'.world.dials.length
  | .error .. => none

/-- The stream connections of a subscription. -/
def streams (request : SubscriptionRequest) (body : Bytes) (standings : List Standing) : List Nat :=
  standings.filterMap fun s => streamOf request body s.client

section

variable {request : SubscriptionRequest} {body : Bytes} {subscriber : Subscriber}
  {c c' : Client} {n : Nat}

theorem opening_of_streamOf (h : streamOf request body c = some n) :
    ∃ c', opening request body c = .ok () c' ∧ c'.world.dials.length = n := by
  rw [streamOf] at h
  split at h
  · rename_i c' hr
    exact ⟨c', hr, Option.some.inj h⟩
  · cases h

theorem opening_eq (c : Client) : opening request body c =
    (logIn >>= fun _ => do ensureConnected true; writeRequest request.uri body)
      (c.note .attempt) := rfl

/-- A stream connection that no dial has opened during the attempt was open before. -/
theorem streamOf_le (h : streamOf request body c = some n) :
    n ≤ c.world.dials.length ∧ (Closed c → n < c.world.dials.length) := by
  obtain ⟨c', hr, rfl⟩ := opening_of_streamOf h
  have honward : Onward c (finalState (opening request body c)) :=
    (keeps_onward_opening request body).finalState (.refl c)
  rw [hr] at honward
  refine ⟨honward.world.dials.length_le, fun hclosed => honward.opened.lt hclosed ?_⟩
  obtain ⟨endpoint, t, handle, hchannel, -⟩ := connected_of_opening hr
  exact congrArg Channel.isConnected hchannel

/-- A login uses none of the connections that carry a stream later on. -/
theorem streamOf_lt_logIn (hclosed : Closed (finalState (logIn (c.note .attempt))))
    (h : streamOf request body c = some n) :
    n < (finalState (logIn (c.note .attempt))).world.dials.length := by
  obtain ⟨c', hr, rfl⟩ := opening_of_streamOf h
  have honward := onward_bind (x := logIn) (f := fun _ => do
    ensureConnected true; writeRequest request.uri body) (fun _ _ =>
      (keeps_onward_ensureConnected true).bind fun _ =>
        (keeps_onward_frame request.uri body).bind keeps_onward_send) (c.note .attempt)
  rw [← opening_eq, hr] at honward
  obtain ⟨endpoint, t, handle, hchannel, -⟩ := connected_of_opening hr
  exact honward.opened.lt hclosed (congrArg Channel.isConnected hchannel)

theorem Further.lt_of_closed (h : Further c c') (hclosed : Closed c)
    (hle : n ≤ c'.world.dials.length) (hlt : Closed c' → n < c'.world.dials.length) :
    n < c.world.dials.length := by
  cases hopen : c'.channel.isConnected with
  | true => exact Nat.lt_of_le_of_lt hle (h.opened.lt hclosed hopen)
  | false => exact Nat.lt_of_lt_of_le (hlt hopen) h.world.dials.length_le

end

section

variable {o : ClientOptions} {request : SubscriptionRequest} {body : Bytes}
  {subscriber : Subscriber} {s : Standing} {standings : List Standing}
  {result : EStateM.Result RpcError Client SubscriptionEnd} {n : Nat}

/-- The stream connections from a standing on are opened after it. -/
theorem Course.streams_le (h : Course o request body subscriber (s :: standings) result)
    (hn : n ∈ streams request body (s :: standings)) :
    n ≤ s.client.world.dials.length ∧ (Closed s.client → n < s.client.world.dials.length) := by
  generalize hl : s :: standings = l at h
  induction h generalizing s standings with
  | @last s' hends =>
      cases hl
      obtain ⟨s₀, hs₀, hstream⟩ := List.mem_filterMap.1 hn
      rw [List.mem_singleton] at hs₀
      subst hs₀
      exact streamOf_le hstream
  | @resumed s' s'' rest _ hstep _ ih =>
      cases hl
      obtain ⟨s₀, hs₀, hstream⟩ := List.mem_filterMap.1 hn
      rcases List.mem_cons.1 hs₀ with rfl | hs₀
      · exact streamOf_le hstream
      · obtain ⟨hle, hlt⟩ := ih (List.mem_filterMap.2 ⟨s₀, hs₀, hstream⟩) rfl
        have hfurther := (further_runStream request body subscriber s'.client).trans
          hstep.onward.further
        exact ⟨Nat.le_trans hle hfurther.world.dials.length_le, fun hclosed =>
          hfurther.lt_of_closed hclosed hle hlt⟩

/-- None of the stream connections from a standing on is used to log in there. -/
theorem Course.streams_lt_logIn (h : Course o request body subscriber (s :: standings) result)
    (hclosed : Closed (finalState (logIn (s.client.note .attempt))))
    (hn : n ∈ streams request body (s :: standings)) :
    n < (finalState (logIn (s.client.note .attempt))).world.dials.length := by
  obtain ⟨s₀, hs₀, hstream⟩ := List.mem_filterMap.1 hn
  rcases List.mem_cons.1 hs₀ with rfl | hs₀
  · exact streamOf_lt_logIn hclosed hstream
  · cases h with
    | last _ => cases hs₀
    | @resumed _ s' rest _ hstep hcourse =>
        obtain ⟨hle, hlt⟩ := hcourse.streams_le (List.mem_filterMap.2 ⟨s₀, hs₀, hstream⟩)
        have hrun : Further (finalState (logIn (s.client.note .attempt)))
            (finalState (runStream request body subscriber s.client)) := by
          rw [runStream_apply]
          refine further_bind (fun _ c => ?_) _
          exact ((keeps_onward_ensureConnected true).finalState (.refl c)).further.trans
            (further_listen request body subscriber c)
        exact (hrun.trans hstep.onward.further).lt_of_closed hclosed hle hlt

end

end ClusterRpc.Client
