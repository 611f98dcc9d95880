import ClusterRpc.Proofs.Failures
import ClusterRpc.Proofs.Signals

/-!
# Redirects in a row

Where a call or a subscription gives up on account of a redirect there were two of them in a row:
one that was followed, and one that was not. No other failure looks like that.
-/

namespace ClusterRpc

open Relation (ReflTransGen)

namespace Decision

variable {o : ClientOptions} {t u : Tally} {result : Except RpcError StreamOutcome} {label : String}
  {targets : RedirectTargets}

theorem of_eq_follow (h : of o t result = .follow targets u) :
    result = .ok (.redirected targets) := by
  rcases result with e | (_ | _ | found) <;> grind [of, ofFailure]

theorem redirects_of_renew (h : of o t result = .renew u) : u.redirects = t.redirects := by
  rcases result with e | (_ | _ | found) <;> grind [of, ofFailure]

theorem redirects_of_reconnect (h : of o t result = .reconnect u) :
    u.redirects = t.redirects := by
  rcases result with e | (_ | _ | found) <;> grind [of, ofFailure]

/-- A redirect is given up on if it is not the first one, or if a login did so. -/
theorem of_eq_redirect (h : of o t result = .finish (.error (.redirect label))) :
    result = .error (.redirect label) ∨ t.redirects ≠ 0 ∧
      ∃ targets, result = .ok (.redirected targets) ∧ label = targets.leader.label := by
  rcases result with e | (_ | _ | found) <;> grind [of, ofFailure, Tally.maxRedirects]

end Decision

namespace Client

/-! ## Failures that are no redirect -/

/-- Never gives up on account of a redirect. -/
def Persists {α : Type} (x : Action α) : Prop := ∀ c e c', x c = .error e c' → e.kind ≠ .redirect

theorem persists_of_isSingle {α : Type} {x : Action α} (h : FailsWith (·.isSingle) x) :
    Persists x := fun c e c' hr => RpcError.kind_ne_redirect_of_isSingle (h c e c' hr)

/-! ## Two redirects in a row -/

/-- Two redirects in a row of a run whose steps are `Step`: the redirect to `first`, brought at
`c₁`, is followed, and the run goes on until it is brought another one, to `second`, at `c₂`. -/
inductive Row {σ : Type} (Step : σ → σ → Prop) (client : σ → Client)
    (Brings : σ → RedirectTargets → Client → Prop) (uri : String) (start : σ) :
    RedirectTargets → RedirectTargets → Client → Client → Prop
  | intro {s s₁ s₂ : σ} {first second : RedirectTargets} {c₁ c₂ : Client} :
      ReflTransGen Step start s → Brings s first c₁ → Step s s₁ →
      client s₁ = followRedirect uri first c₁ → ReflTransGen Step s₁ s₂ → Brings s₂ second c₂ →
      Row Step client Brings uri start first second c₁ c₂

/-- A row goes on as another run, of which it is the end. -/
theorem Row.after {σ : Type} {Step : σ → σ → Prop} {client : σ → Client}
    {Brings : σ → RedirectTargets → Client → Prop} {uri : String} {start start' : σ}
    {first second : RedirectTargets} {c₁ c₂ : Client} (h : ReflTransGen Step start start')
    (hrow : Row Step client Brings uri start' first second c₁ c₂) :
    Row Step client Brings uri start first second c₁ c₂ := by
  obtain ⟨hreach, hfirst, hstep, hfollow, hrest, hsecond⟩ := hrow
  exact ⟨h.trans hreach, hfirst, hstep, hfollow, hrest, hsecond⟩

section

variable {uri : String} {body : Bytes} {login : Option (Action Unit)}

/-- The exchange of a stage brings a redirect. -/
def Stage.Redirected (uri : String) (body : Bytes) (s : Stage) (targets : RedirectTargets)
    (c : Client) : Prop :=
  ∃ reply, exchange uri body true s.client = .ok reply c ∧ reply.isRedirect = true ∧
    reply.redirectTargets? = some targets

/-- Two redirects in a row of one conversation. -/
abbrev ExchangeRow (uri : String) (body : Bytes) (login : Option (Action Unit)) (start : Stage) :
    RedirectTargets → RedirectTargets → Client → Client → Prop :=
  Row (Round uri body true login) Stage.client (Stage.Redirected uri body) uri start

/-- How a conversation gives up on account of a redirect: in its last exchange, or because a login
does. -/
inductive GivesUp (uri : String) (body : Bytes) (login : Option (Action Unit)) (label : String)
    (start : Stage) : Client → Prop
  | redirected {s : Stage} {targets : RedirectTargets} {c : Client} :
      Rounds uri body true login start s → s.hops = 0 → s.Redirected uri body targets c →
      label = targets.leader.label → GivesUp uri body login label start c
  | unanswered {s : Stage} {c c' : Client} {reply : Reply} {answer : Action Unit} :
      Rounds uri body true login start s → exchange uri body true s.client = .ok reply c →
      reply.isAuthRequired = true → login = some answer →
      answer c = .error (.redirect label) c' → GivesUp uri body login label start c'

theorem GivesUp.after {label : String} {s s' : Stage} {c : Client}
    (h : Round uri body true login s s') (hgives : GivesUp uri body login label s' c) :
    GivesUp uri body login label s c := by
  cases hgives with
  | redirected hrounds hhops hredirected hlabel =>
      exact .redirected (.head h hrounds) hhops hredirected hlabel
  | unanswered hrounds hexchange hauth hlogin hanswer =>
      exact .unanswered (.head h hrounds) hexchange hauth hlogin hanswer

theorem givesUp_converse {label : String} {hops logins : Nat} {c c' : Client}
    (h : converse uri body true login hops logins c = .error (.redirect label) c') :
    GivesUp uri body login label ⟨hops, logins, c⟩ c' := by
  fun_induction converse uri body true login hops logins generalizing c with
  | case1 hops logins ih ih' =>
      simp only [Bind.bind, EStateM.bind] at h
      rcases hr : exchange uri body true c with ⟨reply, d⟩ | ⟨e, d⟩
      · simp only [hr] at h
        cases hredirect : reply.isRedirect with
        | true =>
            simp only [hredirect, Bool.true_and, if_true] at h
            cases htargets : reply.redirectTargets? with
            | none => simp only [htargets] at h; cases h
            | some targets =>
                cases hops with
                | zero =>
                    simp only [htargets] at h
                    cases h
                    exact .redirected .refl rfl ⟨reply, hr, hredirect, htargets⟩ rfl
                | succ hops =>
                    simp only [htargets] at h
                    exact (ih h).after (.followed hr (by rw [hredirect]; rfl) htargets)
        | false =>
            simp only [hredirect, Bool.false_and, Bool.false_eq_true, if_false] at h
            cases hauth : reply.isAuthRequired with
            | false => simp only [hauth] at h; cases h
            | true =>
                cases login with
                | none => simp only [hauth] at h; cases h
                | some answer =>
                    cases logins with
                    | zero => simp only [hauth] at h; cases h
                    | succ logins =>
                        simp only [hauth, EStateM.bind] at h
                        rcases ha : answer d with ⟨⟨⟩, d'⟩ | ⟨e, d'⟩
                        · simp only [ha] at h
                          exact (ih' h).after (.answered hr (by rw [hredirect]; rfl) hauth rfl ha)
                        · simp only [ha] at h
                          cases h
                          exact .unanswered .refl hr hauth rfl ha
      · rw [hr] at h
        cases h
        exact absurd rfl (persists_of_isSingle (failsWith_exchange uri body true) c _ _ hr)

/-- Between a stage that may follow a redirect and one that may not, one is followed. -/
theorem row_of_rounds {s s' : Stage} {second : RedirectTargets} {c₂ : Client}
    (h : Rounds uri body true login s s') (hs : s.hops = 1) (hs' : s'.hops = 0)
    (hsecond : s'.Redirected uri body second c₂) :
    ∃ first c₁, ExchangeRow uri body login s first second c₁ c₂ := by
  -- From the start: the first redirect that is followed uses up the only hop.
  induction h using ReflTransGen.head_induction_on with
  | refl => omega
  | @head s m hround hrest ih =>
      cases hround with
      | @followed hops logins c c' reply targets hr hredirect htargets =>
          refine ⟨targets, c', .intro .refl ⟨reply, hr, ?_, htargets⟩
            (.followed hr hredirect htargets) rfl hrest hsecond⟩
          exact (Bool.and_eq_true _ _ ▸ hredirect).1
      | answered hr hredirect hauth hlogin hanswer =>
          obtain ⟨first, c₁, hrow⟩ := ih hs
          exact ⟨first, c₁, hrow.after (.single (.answered hr hredirect hauth hlogin hanswer))⟩

end

/-! ## Calls -/

/-- Two redirects in a row of a login. -/
inductive LoginRow (c : Client) :
    RedirectTargets → RedirectTargets → Client → Client → Prop
  | intro {credentials : Credentials} {first second : RedirectTargets} {c₁ c₂ : Client} :
      c.options.credentials = some credentials →
      ExchangeRow loginUri (payloadBytes (loginPayload credentials)) none ⟨1, 0, c⟩ first second
        c₁ c₂ → LoginRow c first second c₁ c₂

/-- Where a call starts. -/
def Stage.start (c : Client) : Stage := ⟨1, if c.options.credentials.isSome then 1 else 0, c⟩

/-- How a call answers a challenge. -/
def answer? (uri : String) : Option (Action Unit) :=
  if uri = loginUri then none else some (login true)

/-- Two redirects in a row of a call, or of the login that it makes. -/
inductive CallRow (uri : String) (payload : Json) (c : Client) :
    RedirectTargets → RedirectTargets → Client → Client → Prop
  | own {first second : RedirectTargets} {c₁ c₂ : Client} :
      ExchangeRow uri (payloadBytes payload) (answer? uri) (.start c) first second c₁ c₂ →
      CallRow uri payload c first second c₁ c₂
  | login {s : Stage} {reply : Reply} {c₀ c₁ c₂ : Client} {first second : RedirectTargets} :
      Rounds uri (payloadBytes payload) true (answer? uri) (.start c) s →
      exchange uri (payloadBytes payload) true s.client = .ok reply c₀ →
      reply.isAuthRequired = true → uri ≠ loginUri → LoginRow c₀ first second c₁ c₂ →
      CallRow uri payload c first second c₁ c₂

section

variable {label : String} {c c₂ : Client}

theorem loginRow_of_login (h : login true c = .error (.redirect label) c₂) :
    ∃ first second c₁, LoginRow c first second c₁ c₂ ∧ label = second.leader.label := by
  cases hcredentials : c.options.credentials with
  | none =>
      simp only [Client.login, Bind.bind, EStateM.bind, get_apply, hcredentials] at h
      cases h
  | some credentials =>
      simp only [Client.login, Bind.bind, EStateM.bind, get_apply, hcredentials] at h
      rcases hr : converse loginUri (payloadBytes (loginPayload credentials)) true none 1 0 c with
        ⟨reply, d⟩ | ⟨e, d⟩ <;> simp only [hr] at h
      · cases hok : reply.isOk <;> simp only [hok] at h <;> cases h
      · cases h
        cases givesUp_converse hr with
        | @redirected s second _ hrounds hhops hredirected hlabel =>
            obtain ⟨first, c₁, hrow⟩ := row_of_rounds hrounds rfl hhops hredirected
            exact ⟨first, second, c₁, .intro hcredentials hrow, hlabel⟩
        | unanswered _ _ _ hlogin _ => cases hlogin

/-- A call that gives up on account of a redirect has met two in a row. -/
theorem callRow_of_request {uri : String} {payload : Json}
    (h : request uri payload true c = .error (.redirect label) c₂) :
    ∃ first second c₁, CallRow uri payload c first second c₁ c₂ ∧
      label = second.leader.label := by
  cases givesUp_converse (show converse uri (payloadBytes payload) true (answer? uri) 1
      (Stage.start c).logins c = _ from h) with
  | @redirected s second _ hrounds hhops hredirected hlabel =>
      obtain ⟨first, c₁, hrow⟩ := row_of_rounds hrounds rfl hhops hredirected
      exact ⟨first, second, c₁, .own hrow, hlabel⟩
  | unanswered hrounds hexchange hauth hlogin hanswer =>
      rw [answer?] at hlogin
      split at hlogin <;> cases hlogin
      rename_i huri
      obtain ⟨first, second, c₁, hrow, hlabel⟩ := loginRow_of_login hanswer
      exact ⟨first, second, c₁, .login hrounds hexchange hauth huri hrow, hlabel⟩

end

/-! ## Subscriptions -/

section

variable {o : ClientOptions} {request : SubscriptionRequest} {body : Bytes}
  {subscriber : Subscriber}

/-- The attempt of a standing ends in a redirect. -/
def Standing.Redirected (request : SubscriptionRequest) (body : Bytes) (subscriber : Subscriber)
    (s : Standing) (targets : RedirectTargets) (c : Client) : Prop :=
  runStream request body subscriber s.client = .ok (.redirected targets) c

/-- Two redirects of a subscription. -/
abbrev StreamRow (o : ClientOptions) (request : SubscriptionRequest) (body : Bytes)
    (subscriber : Subscriber) (start : Standing) :
    RedirectTargets → RedirectTargets → Client → Client → Prop :=
  Row (Resumes o request body subscriber) Standing.client
    (Standing.Redirected request body subscriber) request.uri start

/-- Two redirects in a row of a subscription, without an event in between, or of a login that it
makes. -/
inductive SubscriptionRow (o : ClientOptions) (request : SubscriptionRequest) (body : Bytes)
    (subscriber : Subscriber) (start : Standing) :
    RedirectTargets → RedirectTargets → Client → Client → Prop
  | streamed {first second : RedirectTargets} {c₁ c₂ : Client} :
      StreamRow o request body subscriber start first second c₁ c₂ → eventful c₁ c₂ = false →
      SubscriptionRow o request body subscriber start first second c₁ c₂
  | login {s : Standing} {first second : RedirectTargets} {c₁ c₂ : Client} :
      ReflTransGen (Resumes o request body subscriber) start s →
      runStream request body subscriber s.client = .error (.redirect second.leader.label) c₂ →
      LoginRow (s.client.note .attempt) first second c₁ c₂ →
      SubscriptionRow o request body subscriber start first second c₁ c₂

/-- A redirect that was followed, since which no event was handed over. -/
def Standing.Hopped (o : ClientOptions) (request : SubscriptionRequest) (body : Bytes)
    (subscriber : Subscriber) (s start : Standing) : Prop :=
  ∃ s₀ s₁ first c₁, ReflTransGen (Resumes o request body subscriber) start s₀ ∧
    s₀.Redirected request body subscriber first c₁ ∧ Resumes o request body subscriber s₀ s₁ ∧
    s₁.client = followRedirect request.uri first c₁ ∧
    ReflTransGen (Resumes o request body subscriber) s₁ s ∧ eventful c₁ s.client = false

/-- The tally with which the end of an attempt is judged. An event starts it afresh. -/
def Standing.tallied (request : SubscriptionRequest) (body : Bytes) (subscriber : Subscriber)
    (s : Standing) : Tally :=
  if eventful s.client (finalState (runStream request body subscriber s.client)) then .zero
  else s.tally

variable {start s s' : Standing}

/-- An attempt is judged with its tally. -/
theorem attempt_eq_tallied (t : Tally) (c : Client) : attempt o request body subscriber t c =
    (.of o (Standing.tallied request body subscriber ⟨t, c⟩)
        (outcome (runStream request body subscriber c)),
      finalState (runStream request body subscriber c)) := by
  rw [attempt_eq, (told_runStream request body subscriber c).progressed]
  rfl

theorem eventful_of_tallied (h : (s.tallied request body subscriber).redirects ≠ 0) :
    eventful s.client (finalState (runStream request body subscriber s.client)) = false ∧
      s.tally.redirects ≠ 0 := by
  rw [Standing.tallied] at h
  split at h
  · exact absurd rfl h
  · rename_i heventful
    exact ⟨Bool.eq_false_iff.2 heventful, h⟩

/-- A subscription that goes on has followed a redirect, or counts as many as before. -/
theorem Resumes.redirects (h : Resumes o request body subscriber s s') :
    (∃ targets c, s.Redirected request body subscriber targets c ∧
      s'.client = followRedirect request.uri targets c) ∨
    s'.tally.redirects = (s.tallied request body subscriber).redirects := by
  cases h with
  | @follow t u c c' targets _ h =>
      rw [attempt_eq_tallied] at h
      obtain ⟨hdecision, hfinal⟩ := Prod.ext_iff.1 h
      have houtcome := Decision.of_eq_follow hdecision
      refine .inl ⟨targets, c', ?_, rfl⟩
      rw [Standing.Redirected]
      rcases hr : runStream request body subscriber c with ⟨result, d⟩ | ⟨e, d⟩ <;>
        rw [hr] at houtcome hfinal <;> cases houtcome
      cases hfinal
      rfl
  | renew _ h =>
      rw [attempt_eq_tallied] at h
      exact .inr (Decision.redirects_of_renew (Prod.ext_iff.1 h).1)
  | reconnect _ h _ =>
      rw [attempt_eq_tallied] at h
      exact .inr (Decision.redirects_of_reconnect (Prod.ext_iff.1 h).1)

/-- What comes of a standing is further than where it stands. -/
theorem further_resumes (h : ReflTransGen (Resumes o request body subscriber) s s') :
    Further s.client s'.client := by
  induction h with
  | refl => exact .refl _
  | tail _ hstep ih =>
      exact (ih.trans (further_runStream ..)).trans hstep.onward.further

/-- No event since a redirect was followed, if there is none in the attempt either. -/
theorem eventful_of_followed {s₁ : Standing} {first : RedirectTargets} {c₁ : Client}
    (hclient : s₁.client = followRedirect request.uri first c₁)
    (hrest : ReflTransGen (Resumes o request body subscriber) s₁ s)
    (hsame : eventful c₁ s.client = false)
    (hquiet : eventful s.client (finalState (runStream request body subscriber s.client)) =
      false) :
    eventful c₁ (finalState (runStream request body subscriber s.client)) = false := by
  have hfollowed := onward_followRedirect request.uri first c₁
  rw [← hclient] at hfollowed
  rw [eventful_trans (hfollowed.further.trans (further_resumes hrest)).world.trace
    (further_runStream ..).world.trace, hsame, hquiet]
  rfl

/-- Nothing is handed over between two attempts. -/
theorem Resumes.silent (h : Resumes o request body subscriber s s') :
    (finalState (runStream request body subscriber s.client)).world.Grows Event.isSilent
      s'.client.world := by
  cases h with
  | follow _ h =>
      rw [← attempt_snd o, h]
      exact silent_of_signals (signals_followRedirect ..)
  | renew _ h =>
      rw [← attempt_snd o, h]
      exact silent_of_signals (signals_setAuthenticated ..)
  | reconnect _ h _ =>
      rw [← attempt_snd o, h]
      exact (World.grows_pause rfl rfl _).trans (silent_of_signals (signals_refreshEndpoints _))

/-- A redirect that is counted was followed. -/
theorem hopped_of_resumes (h : ReflTransGen (Resumes o request body subscriber) start s)
    (hstart : start.tally.redirects = 0) (hs : s.tally.redirects ≠ 0) :
    s.Hopped o request body subscriber start := by
  induction h with
  | refl => exact absurd hstart hs
  | @tail s s' hreach hstep ih =>
      rcases hstep.redirects with ⟨targets, c, hredirected, hclient⟩ | hredirects
      · refine ⟨s, s', targets, c, hreach, hredirected, hstep, hclient, .refl, ?_⟩
        rw [hclient]
        exact eventful_of_silent (silent_of_signals (signals_followRedirect ..))
      · obtain ⟨hquiet, hne⟩ := eventful_of_tallied (hredirects ▸ hs)
        obtain ⟨s₀, s₁, first, c₁, hfirst, hredirected, hfollow, hclient, hrest, hsame⟩ := ih hne
        refine ⟨s₀, s₁, first, c₁, hfirst, hredirected, hfollow, hclient, hrest.tail hstep, ?_⟩
        have hrun := (onward_followRedirect request.uri first c₁).further.trans
          (hclient ▸ (further_resumes hrest).trans (further_runStream request body subscriber _))
        rw [eventful_trans hrun.world.trace hstep.onward.world.trace,
          eventful_of_followed hclient hrest hsame hquiet, eventful_of_silent hstep.silent]
        rfl

/-- An attempt gives up on account of a redirect only when it logs in. -/
theorem loginRow_of_runStream {label : String} {c c₂ : Client}
    (h : runStream request body subscriber c = .error (.redirect label) c₂) :
    ∃ first second c₁, LoginRow (c.note .attempt) first second c₁ c₂ ∧
      label = second.leader.label := by
  rw [runStream_apply] at h
  simp only [Bind.bind, EStateM.bind] at h
  rcases hl : logIn (c.note .attempt) with ⟨⟨⟩, d⟩ | ⟨e, d⟩ <;> rw [hl] at h
  · -- What follows the login never fails like this.
    exact absurd rfl (persists_of_isSingle (failsWith_listen request body subscriber) d _ _ h)
  · cases h
    cases hlogs : (c.note .attempt).logsIn with
    | true => exact loginRow_of_login ((logIn_of_logsIn hlogs).symm.trans hl)
    | false => cases (logIn_of_skipped hlogs).symm.trans hl

theorem subscriptionRow_of_ends {label : String} {c₂ : Client}
    (h : ReflTransGen (Resumes o request body subscriber) start s)
    (hstart : start.tally.redirects = 0)
    (hends : Ends o request body subscriber s (.error (.redirect label) c₂)) :
    ∃ first second c₁, SubscriptionRow o request body subscriber start first second c₁ c₂ ∧
      label = second.leader.label := by
  cases hends with
  | @failed t c _ _ _ hattempt =>
      rw [attempt_eq_tallied] at hattempt
      obtain ⟨hdecision, hfinal⟩ := Prod.ext_iff.1 hattempt
      rcases Decision.of_eq_redirect hdecision with houtcome | ⟨hne, second, houtcome, hlabel⟩
      · rcases hr : runStream request body subscriber c with ⟨result, d⟩ | ⟨e, d⟩ <;>
          rw [hr] at houtcome hfinal <;> cases houtcome
        cases hfinal
        obtain ⟨first, second, c₁, hrow, hlabel⟩ := loginRow_of_runStream hr
        exact ⟨first, second, c₁, .login h (hlabel ▸ hr) hrow, hlabel⟩
      · obtain ⟨hquiet, hne⟩ := eventful_of_tallied (s := ⟨t, c⟩) hne
        obtain ⟨s₀, s₁, first, c₁, hfirst, hredirected, hfollow, hclient, hrest, hsame⟩ :=
          hopped_of_resumes h hstart hne
        have hbetween := eventful_of_followed hclient hrest hsame hquiet
        rcases hr : runStream request body subscriber c with ⟨result, d⟩ | ⟨e, d⟩ <;>
          rw [hr] at houtcome hfinal hbetween <;> cases houtcome
        cases hfinal
        exact ⟨first, second, c₁,
          .streamed (.intro hfirst hredirected hfollow hclient hrest hr) hbetween, hlabel⟩

end

end Client

end ClusterRpc
