import ClusterRpc.Client.Subscribe
import ClusterRpc.Proofs.Coupling
import Mathlib.Logic.Relation

/-!
# The course of a run

A call goes from exchange to exchange, and a subscription from attempt to attempt. Each of them goes
on in a few ways only, which are the steps of a relation; a run is what lies between its first and
its last one.
-/

namespace ClusterRpc

/-- What is done before the next attempt. -/
def Decision.carriedOut (uri : String) : Decision → Client → Client
  | .finish _, c => c
  | .follow targets _, c => Client.followRedirect uri targets c
  | .renew _, c => c.setAuthenticated false
  | .reconnect _, c => Client.refreshEndpoints { c with world := c.world.pause }

namespace Client

/-! ## Conversations -/

/-- Where a conversation stands before an exchange. -/
structure Stage where
  hops : Nat
  logins : Nat
  client : Client

/-- An exchange that is not the last one, and what is done before the next. -/
inductive Round (uri : String) (body : Bytes) (allowRedirect : Bool)
    (login : Option (Action Unit)) : Stage → Stage → Prop
  | followed {hops logins : Nat} {c c' : Client} {reply : Reply} {targets : RedirectTargets} :
      exchange uri body allowRedirect c = .ok reply c' →
      (reply.isRedirect && allowRedirect) = true → reply.redirectTargets? = some targets →
      Round uri body allowRedirect login ⟨hops + 1, logins, c⟩
        ⟨hops, logins, followRedirect uri targets c'⟩
  | answered {hops logins : Nat} {c c' c'' : Client} {reply : Reply} {answer : Action Unit} :
      exchange uri body allowRedirect c = .ok reply c' →
      (reply.isRedirect && allowRedirect) = false → reply.isAuthRequired = true →
      login = some answer → answer c' = .ok () c'' →
      Round uri body allowRedirect login ⟨hops, logins + 1, c⟩ ⟨hops, logins, c''⟩

/-- Any number of exchanges that are not the last one. -/
abbrev Rounds (uri : String) (body : Bytes) (allowRedirect : Bool)
    (login : Option (Action Unit)) : Stage → Stage → Prop :=
  Relation.ReflTransGen (Round uri body allowRedirect login)

section

variable {uri : String} {body : Bytes} {allowRedirect : Bool} {login : Option (Action Unit)}
  {s s' : Stage}

/-- A conversation goes on after an exchange. -/
theorem Round.onward (hl : ∀ x, login = some x → ∀ c, Onward c (finalState (x c)))
    (h : Round uri body allowRedirect login s s') :
    Onward (finalState (exchange uri body allowRedirect s.client)) s'.client := by
  cases h with
  | followed hr =>
      rw [hr]
      exact onward_followRedirect ..
  | @answered _ _ _ c' _ _ _ hr _ _ hlogin hanswer =>
      have hanswered := hl _ hlogin c'
      rw [hanswer] at hanswered
      rw [hr]
      exact hanswered

end

/-! ## One attempt of a subscription -/

/-- Logs in, if there are credentials and the current endpoint has not accepted them yet. -/
def logIn : Action Unit := do
  let c ← get
  if c.options.credentials.isSome && !c.isAuthenticated then login true

/-- Whether an attempt begins with a login. -/
def logsIn (c : Client) : Bool := c.options.credentials.isSome && !c.isAuthenticated

/-- What an attempt does once it is logged in. -/
def listen (request : SubscriptionRequest) (body : Bytes) (subscriber : Subscriber) :
    Action StreamOutcome := do
  ensureConnected true
  writeRequest request.uri body
  closing (pump subscriber .fresh)

/-- What an attempt does until its request is written. -/
def opening (request : SubscriptionRequest) (body : Bytes) : Action Unit := do
  modify (·.note .attempt)
  logIn
  ensureConnected true
  writeRequest request.uri body

section

variable {request : SubscriptionRequest} {body : Bytes} {subscriber : Subscriber}
  {c c' c₀ : Client}

theorem logIn_of_skipped (h : c.logsIn = false) : logIn c = .ok () c := by
  simp only [logIn, Bind.bind, EStateM.bind, get_apply]
  rw [logsIn] at h
  rw [h]
  rfl

theorem logIn_of_logsIn (h : c.logsIn = true) : logIn c = login true c := by
  simp only [logIn, Bind.bind, EStateM.bind, get_apply]
  rw [logsIn] at h
  rw [h]
  rfl

theorem runStream_eq (request : SubscriptionRequest) (body : Bytes) (subscriber : Subscriber) :
    runStream request body subscriber =
      opening request body >>= fun _ => closing (pump subscriber .fresh) := by
  funext c
  simp only [runStream, opening, logIn, writeRequest, bind_assoc]
  simp only [Bind.bind, EStateM.bind, modify_apply, get_apply]
  split
  · rfl
  · rfl

theorem runStream_of_opened (h : opening request body c = .ok () c') :
    runStream request body subscriber c = closing (pump subscriber .fresh) c' := by
  rw [runStream_eq]
  simp only [Bind.bind, EStateM.bind, h]

theorem runStream_of_unopened {e : RpcError} (h : opening request body c = .error e c') :
    runStream request body subscriber c = .error e c' := by
  rw [runStream_eq]
  simp only [Bind.bind, EStateM.bind, h]

theorem runStream_apply (request : SubscriptionRequest) (body : Bytes) (subscriber : Subscriber)
    (c : Client) : runStream request body subscriber c =
      (logIn >>= fun _ => listen request body subscriber) (c.note .attempt) := by
  rw [runStream_eq]
  simp only [opening, listen, bind_assoc]
  rfl

theorem keeps_onward_logIn : Keeps (Onward c₀) logIn := by
  refine Keeps.get_bind fun c => ?_
  split
  · exact (exchanging_onward true).login
  · exact fun _ h => h

theorem keeps_onward_opening (request : SubscriptionRequest) (body : Bytes) :
    Keeps (Onward c₀) (opening request body) :=
  (Keeps.modify fun c h => h.trans (onward_note c .attempt)).bind fun _ =>
    keeps_onward_logIn.bind fun _ => (keeps_onward_ensureConnected true).bind fun _ =>
      (keeps_onward_frame request.uri body).bind keeps_onward_send

theorem further_closing_pump (subscriber : Subscriber) (stream : RecordStream) (c : Client) :
    Further c (finalState (closing (pump subscriber stream) c)) := by
  rw [(closing_spec (pump subscriber stream) c).2]
  exact (further_pump subscriber stream c).trans (onward_hangUp _).further

theorem further_listen (request : SubscriptionRequest) (body : Bytes) (subscriber : Subscriber)
    (c : Client) : Further (finalState (ensureConnected true c))
      (finalState (listen request body subscriber c)) := by
  refine further_bind (fun _ c => ?_) c
  have hwrite : Further c (finalState (writeRequest request.uri body c)) :=
    (((keeps_onward_frame request.uri body).bind keeps_onward_send).finalState (.refl c)).further
  exact hwrite.trans (further_bind (fun _ c => further_closing_pump subscriber .fresh c) c)

theorem further_runStream (request : SubscriptionRequest) (body : Bytes) (subscriber : Subscriber)
    (c : Client) : Further c (finalState (runStream request body subscriber c)) := by
  have hlogIn := keeps_onward_logIn.finalState (onward_note c .attempt)
  rw [runStream_apply]
  refine hlogIn.further.trans (further_bind (fun _ c => ?_) _)
  exact ((keeps_onward_ensureConnected true).finalState (.refl c)).further.trans
    (further_listen request body subscriber c)

end

/-! ## The attempts of a subscription -/

/-- Where a subscription stands before an attempt. -/
structure Standing where
  tally : Tally
  client : Client

section

variable (o : ClientOptions) (request : SubscriptionRequest) (body : Bytes)
  (subscriber : Subscriber)

/-- An attempt that is not the last one, and what is done before the next. -/
inductive Resumes : Standing → Standing → Prop
  | follow {t u : Tally} {c c' : Client} {targets : RedirectTargets} :
      c.world.cancelled = false →
      attempt o request body subscriber t c = (.follow targets u, c') →
      Resumes ⟨t, c⟩ ⟨u, followRedirect request.uri targets c'⟩
  | renew {t u : Tally} {c c' : Client} : c.world.cancelled = false →
      attempt o request body subscriber t c = (.renew u, c') →
      Resumes ⟨t, c⟩ ⟨u, c'.setAuthenticated false⟩
  | reconnect {t u : Tally} {c c' : Client} : c.world.cancelled = false →
      attempt o request body subscriber t c = (.reconnect u, c') →
      c'.world.pause.cancelled = false →
      Resumes ⟨t, c⟩ ⟨u, { c' with world := c'.world.pause }.refreshEndpoints⟩

/-- How a subscription ends where it stands. -/
inductive Ends : Standing → EStateM.Result RpcError Client SubscriptionEnd → Prop
  | cancelled {t : Tally} {c : Client} : c.world.cancelled = true →
      Ends ⟨t, c⟩ (.ok .cancelled c)
  | done {t : Tally} {c c' : Client} {done : SubscriptionEnd} : c.world.cancelled = false →
      attempt o request body subscriber t c = (.finish (.ok done), c') →
      Ends ⟨t, c⟩ (.ok done c')
  | failed {t : Tally} {c c' : Client} {e : RpcError} : c.world.cancelled = false →
      attempt o request body subscriber t c = (.finish (.error e), c') →
      Ends ⟨t, c⟩ (.error e c')
  | paused {t u : Tally} {c c' : Client} : c.world.cancelled = false →
      attempt o request body subscriber t c = (.reconnect u, c') →
      c'.world.pause.cancelled = true →
      Ends ⟨t, c⟩ (.ok .cancelled { c' with world := c'.world.pause })

/-- The standings of a subscription up to the one it ends in. -/
inductive Course : List Standing → EStateM.Result RpcError Client SubscriptionEnd → Prop
  | last {s : Standing} {result : EStateM.Result RpcError Client SubscriptionEnd} :
      Ends o request body subscriber s result → Course [s] result
  | resumed {s s' : Standing} {standings : List Standing}
      {result : EStateM.Result RpcError Client SubscriptionEnd} :
      Resumes o request body subscriber s s' → Course (s' :: standings) result →
        Course (s :: s' :: standings) result

variable {o request body subscriber} in
/-- A course leads from its first standing to one in which the subscription ends. -/
theorem Course.ends {s : Standing} {standings : List Standing}
    {result : EStateM.Result RpcError Client SubscriptionEnd}
    (h : Course o request body subscriber (s :: standings) result) :
    ∃ s', Relation.ReflTransGen (Resumes o request body subscriber) s s' ∧
      Ends o request body subscriber s' result := by
  generalize hl : s :: standings = l at h
  induction h generalizing s standings with
  | last hends =>
      cases hl
      exact ⟨_, .refl, hends⟩
  | resumed hstep _ ih =>
      cases hl
      obtain ⟨s', hreach, hends⟩ := ih rfl
      exact ⟨s', .head hstep hreach, hends⟩

/-- What follows from an attempt, and the client after it. -/
theorem attempt_eq (t : Tally) (c : Client) :
    attempt o request body subscriber t c =
      (.of o (if progressed c (finalState (runStream request body subscriber c)) then .zero else t)
          (outcome (runStream request body subscriber c)),
        finalState (runStream request body subscriber c)) := by
  simp only [attempt]
  cases runStream request body subscriber c <;> rfl

variable {o request body subscriber}

/-- A subscription goes on after an attempt. -/
theorem Resumes.onward {s s' : Standing} (h : Resumes o request body subscriber s s') :
    Onward (finalState (runStream request body subscriber s.client)) s'.client := by
  cases h with
  | follow _ h =>
      rw [← attempt_snd o, h]
      exact onward_followRedirect ..
  | renew _ h =>
      rw [← attempt_snd o, h]
      exact onward_setAuthenticated ..
  | reconnect _ h _ =>
      rw [← attempt_snd o, h]
      refine Onward.trans ?_ (onward_refreshEndpoints _)
      exact ⟨rfl, rfl, World.onward_pause _, .inl⟩

theorem Resumes.uncancelled {s s' : Standing} (h : Resumes o request body subscriber s s') :
    s.client.world.cancelled = false := by
  cases h <;> assumption

/-- A subscription goes on as an attempt has decided. -/
theorem Resumes.carriedOut (h : Resumes o request body subscriber s s') :
    (attempt o request body subscriber s.tally s.client).1.tally? = some s'.tally ∧
      s'.client = (attempt o request body subscriber s.tally s.client).1.carriedOut request.uri
        (attempt o request body subscriber s.tally s.client).2 := by
  cases h with
  | follow _ h | renew _ h | reconnect _ h _ => rw [h]; exact ⟨rfl, rfl⟩

variable (o request body subscriber)

/-- A subscription has a course. -/
theorem course_subscriptionLoop (t : Tally) (c : Client) : ∃ standings,
    Course o request body subscriber (⟨t, c⟩ :: standings)
      (subscriptionLoop o request body subscriber t c) := by
  fun_induction subscriptionLoop o request body subscriber t c with
  | case1 t c hc => exact ⟨[], .last (.cancelled hc)⟩
  | case2 t c hc done c' h => exact ⟨[], .last (.done (Bool.eq_false_iff.2 hc) h)⟩
  | case3 t c hc e c' h => exact ⟨[], .last (.failed (Bool.eq_false_iff.2 hc) h)⟩
  | case4 t c hc targets u c' h ih =>
      obtain ⟨standings, hcourse⟩ := ih
      exact ⟨_, .resumed (.follow (Bool.eq_false_iff.2 hc) h) hcourse⟩
  | case5 t c hc u c' h ih =>
      obtain ⟨standings, hcourse⟩ := ih
      exact ⟨_, .resumed (.renew (Bool.eq_false_iff.2 hc) h) hcourse⟩
  | case6 t c hc u c' h paused hp =>
      exact ⟨[], .last (.paused (Bool.eq_false_iff.2 hc) h hp)⟩
  | case7 t c hc u c' h paused hp ih =>
      obtain ⟨standings, hcourse⟩ := ih
      exact ⟨_, .resumed (.reconnect (Bool.eq_false_iff.2 hc) h (Bool.eq_false_iff.2 hp)) hcourse⟩

end

/-- A subscription is its loop, but for the text of its failure. -/
theorem subscribe_spec (request : SubscriptionRequest) (subscriber : Subscriber) (c : Client) :
    let result := subscriptionLoop c.options request (payloadBytes request.payload) subscriber
      .zero { c with delivered := [] }
    outcome (subscribe request subscriber c) = outcome result ∧
      (finalState (subscribe request subscriber c)).delivered = (finalState result).delivered ∧
      (finalState (subscribe request subscriber c)).world = (finalState result).world := by
  intro result
  simp only [subscribe, recording]
  rw [show subscriptionLoop .. = result from rfl]
  cases result <;> exact ⟨rfl, rfl, rfl⟩

end Client

end ClusterRpc
