import ClusterRpc.Client.Subscribe

/-!
# The states a client can be in

A client starts fresh, its operations may come in any order, and what is outside may change between
them. An invariant of all these states is proved from what it is to the parts of the operations.
-/

namespace ClusterRpc.Client

/-! ## Triples -/

/-- From `P` the action ends in `Q` if it succeeds, and in `E` if it fails. -/
def Ensures {α : Type} (P : Client → Prop) (x : Action α) (Q : α → Client → Prop)
    (E : Client → Prop) : Prop :=
  ∀ c, P c → match x c with
    | .ok a c' => Q a c'
    | .error _ c' => E c'

/-- Keeps an invariant, whether it succeeds or not. -/
def Keeps {α : Type} (I : Client → Prop) (x : Action α) : Prop := Ensures I x (fun _ => I) I

section

variable {α β : Type} {P I E : Client → Prop} {Q : α → Client → Prop} {x : Action α}

theorem Ensures.bind {f : α → Action β} {R : β → Client → Prop} (hx : Ensures P x Q E)
    (hf : ∀ a, Ensures (Q a) (f a) R E) : Ensures P (x >>= f) R E := by
  intro c hc
  have h := hx c hc
  simp only [Bind.bind, EStateM.bind]
  cases hr : x c with
  | ok a c' =>
      rw [hr] at h
      exact hf a c' h
  | error e c' =>
      rw [hr] at h
      exact h

theorem Ensures.mono {P' E' : Client → Prop} {Q' : α → Client → Prop} (h : Ensures P x Q E)
    (hP : ∀ c, P' c → P c) (hQ : ∀ a c, Q a c → Q' a c) (hE : ∀ c, E c → E' c) :
    Ensures P' x Q' E' := by
  intro c hc
  have h := h c (hP c hc)
  cases hr : x c with
  | ok a c' =>
      rw [hr] at h
      exact hQ a c' h
  | error e c' =>
      rw [hr] at h
      exact hE c' h

theorem Ensures.pure {a : α} : Ensures (Q a) (pure a : Action α) Q E := fun _ hc => hc

theorem Ensures.throw {e : RpcError} : Ensures E (throw e : Action α) Q E := fun _ hc => hc

theorem Ensures.modify {f : Client → Client} {Q : PUnit → Client → Prop}
    (h : ∀ c, P c → Q ⟨⟩ (f c)) : Ensures P (modify f : Action PUnit) Q E := h

/-- The state may be looked at first. -/
theorem Ensures.get_bind {f : Client → Action α} (hf : ∀ c, Ensures P (f c) Q E) :
    Ensures P (MonadState.get >>= f) Q E := fun c hc => hf c c hc

theorem Keeps.get_bind {f : Client → Action α} (hf : ∀ c, Keeps I (f c)) :
    Keeps I (MonadState.get >>= f) := Ensures.get_bind hf

theorem Keeps.throw {e : RpcError} : Keeps I (throw e : Action α) := Ensures.throw

/-- Closing the channel in the end. -/
theorem Ensures.closing (h : Ensures P x (fun _ => I) I) (hI : ∀ c, I c → I c.hangUp) :
    Ensures P (closing x) (fun _ => I) I := by
  intro c hc
  have h := h c hc
  simp only [Client.closing]
  cases hr : x c with
  | ok a c' =>
      rw [hr] at h
      exact hI c' h
  | error e c' =>
      rw [hr] at h
      exact hI c' h

theorem Keeps.finalState (h : Keeps I x) {c : Client} (hc : I c) : I (finalState (x c)) := by
  have h := h c hc
  cases hr : x c with
  | ok a c' =>
      rw [hr] at h
      exact h
  | error e c' =>
      rw [hr] at h
      exact h

/-- An action that keeps an invariant, however it may end. -/
theorem keeps_of_finalState (h : ∀ c, I c → I (ClusterRpc.finalState (x c))) : Keeps I x := by
  intro c hc
  have h := h c hc
  cases hr : x c with
  | ok a c' =>
      rw [hr] at h
      exact h
  | error e c' =>
      rw [hr] at h
      exact h

theorem Keeps.bind {f : α → Action β} (hx : Keeps I x) (hf : ∀ a, Keeps I (f a)) :
    Keeps I (x >>= f) := Ensures.bind hx hf

theorem Keeps.closing (h : Keeps I x) (hI : ∀ c, I c → I c.hangUp) : Keeps I (closing x) :=
  Ensures.closing h hI

theorem Keeps.modify {f : Client → Client} (h : ∀ c, I c → I (f c)) :
    Keeps I (modify f : Action PUnit) := h

theorem Keeps.noting {x : Action Reply} (h : Keeps I x) (uri : String)
    (hI : ∀ c e, I c → I (c.note e)) : Keeps I (noting uri x) := by
  intro c hc
  have h := h c hc
  simp only [Client.noting]
  cases hr : x c with
  | ok a c' =>
      rw [hr] at h
      exact hI c' _ h
  | error e c' =>
      rw [hr] at h
      exact hI c' _ h

theorem Keeps.recording (h : Keeps I x)
    (hI : ∀ c lastError, I c → I { c with lastError }) : Keeps I (recording x) := by
  intro c hc
  have h := h c hc
  simp only [Client.recording]
  cases hr : x c with
  | ok a c' =>
      rw [hr] at h
      exact h
  | error e c' =>
      rw [hr] at h
      exact hI c' _ h

/-- A reply that is given back is that of an exchange. -/
theorem ensures_converse {uri : String} {body : Bytes} {allowRedirect : Bool}
    {login : Option (Action Unit)} {Q : Reply → Client → Prop}
    (hexchange : Ensures I (exchange uri body allowRedirect) Q I) (hQ : ∀ r c, Q r c → I c)
    (hfollow : allowRedirect = true → ∀ targets c, I c → I (followRedirect uri targets c))
    (hlogin : ∀ x, login = some x → Keeps I x) (hops logins : Nat) :
    Ensures I (converse uri body allowRedirect login hops logins) Q I := by
  fun_induction converse uri body allowRedirect login hops logins with
  | case1 hops logins ih ih' =>
      refine hexchange.bind fun reply => ?_
      have hthrow (e : RpcError) : Ensures (Q reply) (throw e : Action Reply) Q I :=
        Ensures.throw.mono (hQ reply) (fun _ _ h => h) (fun _ h => h)
      split
      · rename_i hredirect
        have hallow : allowRedirect = true := (Bool.and_eq_true_iff.1 hredirect).2
        split
        · exact hthrow _
        · split
          · exact hthrow _
          · exact (Ensures.modify fun c hc => hfollow hallow _ c (hQ reply c hc)).bind fun _ => ih
      · split
        · split
          · exact hthrow _
          · exact ((hlogin _ rfl).mono (hQ reply) (fun _ _ h => h) (fun _ h => h)).bind fun _ => ih'
        · exact Ensures.pure

/-- What makes logins and requests keep `I`: exchanges do, and ensure `Q` if they bring a reply, which
is enough to count as logged in where it accepts a login. Redirects are followed if they are
allowed. -/
structure Exchanging (allowRedirect : Bool) (I : Client → Prop)
    (Q : String → Reply → Client → Prop) : Prop where
  exchange : ∀ uri body, Ensures I (exchange uri body allowRedirect) (Q uri) I
  kept : ∀ uri r c, Q uri r c → I c
  followRedirect : allowRedirect = true → ∀ uri targets c, I c → I (followRedirect uri targets c)
  accept : ∀ r c, r.isOk = true → Q loginUri r c → I (c.setAuthenticated true)

section

variable {allowRedirect : Bool} {Q : String → Reply → Client → Prop}

theorem Exchanging.login (h : Exchanging allowRedirect I Q) : Keeps I (login allowRedirect) := by
  refine Keeps.get_bind fun c => ?_
  split
  · exact Keeps.throw
  refine (ensures_converse (h.exchange _ _) (h.kept loginUri)
    (fun hallow => h.followRedirect hallow loginUri) (by simp) 1 0).bind fun reply => ?_
  cases hok : reply.isOk with
  | false =>
      -- The mark after the failure is not reached.
      refine Ensures.bind (Q := fun _ _ => False) ?_ fun _ => ?_
      · exact fun c hc => h.kept _ _ c hc
      · exact fun c hc => hc.elim
  | true => exact Ensures.modify fun c => h.accept reply c hok

theorem Exchanging.request (h : Exchanging allowRedirect I Q) (uri : String) (payload : Json) :
    Keeps I (request uri payload allowRedirect) := by
  refine Keeps.get_bind fun c => ?_
  have hlogin : ∀ x, (if uri = loginUri then none else some (Client.login allowRedirect)) = some x →
      Keeps I x := by
    intro x hx
    split at hx
    · cases hx
    · cases hx
      exact h.login
  have hconverse (logins : Nat) := ensures_converse (h.exchange uri (payloadBytes payload))
    (h.kept uri) (fun hallow => h.followRedirect hallow uri) hlogin 1 logins
  exact (hconverse _).mono (fun _ hc => hc) (h.kept uri) (fun _ hc => hc)

end

/-- An attempt at a subscription: it connects, makes its request, writes it and reads the stream. -/
theorem keeps_runStream {C S : Client → Prop} {F : RequestFrame → Client → Prop}
    {request : SubscriptionRequest} {body : Bytes} {subscriber : Subscriber}
    (hattempt : ∀ c, I c → I (c.note .attempt)) (hlogin : Keeps I (login true))
    (hconnect : Ensures I (ensureConnected true) (fun _ => C) I)
    (hframe : Ensures C (frame request.uri body) F I)
    (hsend : ∀ frame, Ensures (F frame) (send frame) (fun _ => S) I)
    (hpump : ∀ c, S c → I (ClusterRpc.finalState (pump subscriber .fresh c)))
    (hhangUp : ∀ c, I c → I c.hangUp) : Keeps I (runStream request body subscriber) := by
  have hread : Ensures S (pump subscriber .fresh) (fun _ => I) I := by
    intro c hc
    have h := hpump c hc
    cases hr : pump subscriber .fresh c <;> rw [hr] at h <;> exact h
  have hrest : Keeps I (do
      ensureConnected true
      send (← frame request.uri body)
      Client.closing (pump subscriber .fresh)) :=
    hconnect.bind fun _ => hframe.bind fun frame => (hsend frame).bind fun _ =>
      hread.closing hhangUp
  refine Keeps.bind (Keeps.modify hattempt) fun _ => Keeps.get_bind fun c => ?_
  split
  · exact hlogin.bind fun _ => hrest
  · exact hrest

end

/-! ## Subscriptions -/

/-- What a subscription keeps because its attempts do, and what is done between them. -/
structure Resuming (request : SubscriptionRequest) (body : Bytes) (subscriber : Subscriber)
    (I : Client → Prop) : Prop where
  runStream : Keeps I (runStream request body subscriber)
  followRedirect : ∀ targets c, I c → I (followRedirect request.uri targets c)
  logout : ∀ c, I c → I (c.setAuthenticated false)
  pause : ∀ c, I c → I { c with world := c.world.pause }
  refreshEndpoints : ∀ c, I c → I c.refreshEndpoints

theorem Resuming.loop {request : SubscriptionRequest} {body : Bytes} {subscriber : Subscriber}
    {I : Client → Prop} (hI : Resuming request body subscriber I) (o : ClientOptions) (t : Tally)
    (c : Client) (hc : I c) : I (finalState (subscriptionLoop o request body subscriber t c)) := by
  have hattempt {t : Tally} {c c' : Client} {d : Decision} (hc : I c)
      (h : attempt o request body subscriber t c = (d, c')) : I c' := by
    have hrun := hI.runStream.finalState hc
    rw [← attempt_snd o request body subscriber t c, h] at hrun
    exact hrun
  fun_induction subscriptionLoop o request body subscriber t c with
  | case1 => exact hc
  | case2 t c _ done c' h => exact hattempt hc h
  | case3 t c _ e c' h => exact hattempt hc h
  | case4 t c _ targets u c' h ih => exact ih (hI.followRedirect _ _ (hattempt hc h))
  | case5 t c _ u c' h ih => exact ih (hI.logout _ (hattempt hc h))
  | case6 t c _ u c' h paused _ => exact hI.pause _ (hattempt hc h)
  | case7 t c _ u c' h paused _ ih =>
      exact ih (hI.refreshEndpoints _ (hI.pause _ (hattempt hc h)))

/-! ## Operations -/

inductive Operation where
  | connect (useRedirect : Bool)
  | reconnect (useRedirect : Bool)
  | close
  | call (uri : String) (payload : Json) (allowRedirect : Bool)
  | authenticate
  | subscribe (request : SubscriptionRequest) (subscriber : Subscriber)

/-- The client after an operation. -/
def perform : Operation → Client → Client
  | .connect useRedirect, c => finalState (connect useRedirect c)
  | .reconnect useRedirect, c => finalState (reconnect useRedirect c)
  | .close, c => c.close
  | .call uri payload allowRedirect, c => finalState (call uri payload allowRedirect c)
  | .authenticate, c => finalState (authenticate c)
  | .subscribe request subscriber, c => finalState (subscribe request subscriber c)

/-- The states that clients with these options can be in between their operations. -/
inductive Reachable (options : ClientOptions) : Client → Prop
  | fresh (world : World) : world.trace = [] → Reachable options (fresh options world)
  | perform (op : Operation) {c : Client} : Reachable options c → Reachable options (perform op c)
  /-- What has happened stays; everything else outside may change. -/
  | elapse (world : World) {c : Client} : world.trace = c.world.trace → Reachable options c →
      Reachable options { c with world }

/-- What makes `I` an invariant: it holds at the start, and the parts of the operations keep it. -/
structure Invariant (options : ClientOptions) (I : Client → Prop) : Prop where
  fresh : ∀ world, world.trace = [] → I (.fresh options world)
  elapse : ∀ c world, world.trace = c.world.trace → I c → I { c with world }
  /-- Neither the text of a failure nor what was delivered matters. -/
  aside : ∀ c lastError delivered, I c → I { c with lastError, delivered }
  close : ∀ c, I c → I c.close
  ensureConnected : ∀ useRedirect, Keeps I (ensureConnected useRedirect)
  login : ∀ allowRedirect, Keeps I (login allowRedirect)
  request : ∀ uri payload allowRedirect, Keeps I (request uri payload allowRedirect)
  runStream : ∀ request body subscriber, Keeps I (runStream request body subscriber)
  followRedirect : ∀ uri targets c, I c → I (followRedirect uri targets c)
  logout : ∀ c, I c → I (c.setAuthenticated false)
  pause : ∀ c, I c → I { c with world := c.world.pause }
  refreshEndpoints : ∀ c, I c → I c.refreshEndpoints

section

variable {options : ClientOptions} {I : Client → Prop}

theorem Invariant.resuming (hI : Invariant options I) (request : SubscriptionRequest)
    (body : Bytes) (subscriber : Subscriber) : Resuming request body subscriber I where
  runStream := hI.runStream request body subscriber
  followRedirect := hI.followRedirect request.uri
  logout := hI.logout
  pause := hI.pause
  refreshEndpoints := hI.refreshEndpoints

/-- Every operation keeps an invariant. -/
theorem Invariant.operation (hI : Invariant options I) (op : Operation) {c : Client} (hc : I c) :
    I (perform op c) := by
  have haside (c : Client) (lastError : Option String) (hc : I c) : I { c with lastError } :=
    hI.aside c lastError c.delivered hc
  have hconnect (useRedirect : Bool) : Keeps I (connect useRedirect) :=
    (hI.ensureConnected useRedirect).recording haside
  cases op with
  | connect useRedirect => exact (hconnect useRedirect).finalState hc
  | reconnect useRedirect =>
      have hclose : Keeps I (modify Client.close : Action PUnit) := Ensures.modify hI.close
      exact (hclose.bind fun _ => hconnect useRedirect).finalState hc
  | close => exact hI.close c hc
  | call uri payload allowRedirect =>
      exact ((hI.request uri payload allowRedirect).recording haside).finalState hc
  | authenticate => exact ((hI.login true).recording haside).finalState hc
  | subscribe request subscriber =>
      refine Keeps.finalState (Keeps.recording (keeps_of_finalState fun c hc => ?_) haside) hc
      exact (hI.resuming request _ subscriber).loop _ _ _ (hI.aside c c.lastError [] hc)

/-- An invariant holds in every state a client can be in. -/
theorem Invariant.reachable (hI : Invariant options I) {c : Client} (h : Reachable options c) :
    I c := by
  induction h with
  | fresh world htrace => exact hI.fresh world htrace
  | perform op _ ih => exact hI.operation op ih
  | elapse world htrace _ ih => exact hI.elapse _ world htrace ih

end

end ClusterRpc.Client
