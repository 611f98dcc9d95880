import ClusterRpc.Proofs.Agreement
import ClusterRpc.Proofs.Completion
import ClusterRpc.Proofs.Row

/-!
# A redirect is given up on after its leader was dialled

The second of two redirects in a row ends a call or a subscription. Between the two the leader that
the first one named is dialled, and before any other endpoint, unless it was listed as failed when
the first one was followed: flags outlive redirects, and an endpoint that is flagged is passed over.
-/

namespace ClusterRpc.Client

open Relation (ReflTransGen)

/-! ## First dials -/

/-- Between two clients something is dialled, and an address before all others. -/
def DialsFirst (a : Address) (c c' : Client) : Prop :=
  ∃ new, c'.world.trace = c.world.trace ++ new ∧ (dialled new).head? = some a

/-- The channel is closed, and an address is the first that connecting dials. -/
structure Aims (a : Address) (c : Client) : Prop where
  closed : c.channel.isConnected = false
  order : (order c).head? = some a

section

variable {a : Address} {c c' c'' : Client}

theorem DialsFirst.after (h : DialsFirst a c c') (ho : Further c' c'') : DialsFirst a c c'' := by
  obtain ⟨new, hnew, hfirst⟩ := h
  obtain ⟨more, hmore⟩ := ho.world.trace
  refine ⟨new ++ more, by rw [← hmore, hnew, List.append_assoc], ?_⟩
  rw [dialled_append, List.head?_append, hfirst, Option.some_or]

theorem Aims.note (h : Aims a c) (e : Event) : Aims a (c.note e) := by
  have hload : (c.directory.ensureLoaded (c.note e).world).1 =
      (c.directory.ensureLoaded c.world).1 := ensureLoaded_of_store rfl
  have horder := h.order
  rw [Client.order, ← hload] at horder
  exact ⟨h.closed, horder⟩

theorem Aims.ensureConnected (h : Aims a c) :
    DialsFirst a c (finalState (ensureConnected true c)) := by
  obtain ⟨failures, rest, hwalked⟩ := failover_spec c
  have honward := (keeps_onward_ensureConnected true).finalState (.refl c)
  rw [ensureConnected_eq, h.closed] at honward ⊢
  obtain ⟨new, hnew⟩ := honward.world.trace
  refine ⟨new, hnew.symm, ?_⟩
  have hdialled : dialled new = failures.map Prod.fst ++ rest.take 1 := by
    have hdials := hwalked.dials
    rw [show (finalState (failover c)).world.trace = _ from hnew.symm, dialled_append] at hdials
    exact List.append_cancel_left hdials
  have hfirst := h.order
  rw [hwalked.sequence, List.head?_append] at hfirst
  rw [hdialled, List.head?_append, List.head?_take, if_neg Nat.one_ne_zero, hfirst]

/-- What is dialled for an exchange is dialled before anything is sent. -/
theorem Aims.exchange (h : Aims a c) (uri : String) (body : Bytes) :
    DialsFirst a c (finalState (exchange uri body true c)) :=
  h.ensureConnected.after (onward_bind (fun _ _ => keeps_onward_transact uri body) c).further

/-- A conversation goes on from where its first exchange ends. -/
theorem onward_converse (uri : String) (body : Bytes) (allowRedirect : Bool) {login : Option
    (Action Unit)} (hl : ∀ x, login = some x → ∀ c₀, Keeps (Onward c₀) x) (hops logins : Nat)
    (c : Client) : Onward (finalState (Client.exchange uri body allowRedirect c))
      (finalState (converse uri body allowRedirect login hops logins c)) := by
  have hconverse (c₀ : Client) (hops logins : Nat) :
      Keeps (Onward c₀) (converse uri body allowRedirect login hops logins) :=
    keeps_onward_converse uri body allowRedirect (fun x hx => hl x hx c₀) hops logins
  rw [converse]
  refine onward_bind (fun reply c₀ => ?_) c
  split
  · split
    · exact .throw
    · split
      · exact .throw
      · exact (Keeps.modify fun c h => h.trans (onward_followRedirect uri _ c)).bind fun _ =>
          hconverse c₀ _ _
  · split
    · split
      · exact .throw
      · exact (hl _ rfl c₀).bind fun _ => hconverse c₀ _ _
    · exact fun _ h => h

theorem Aims.login (h : Aims a c) (hc : c.options.credentials.isSome = true) :
    DialsFirst a c (finalState (login true c)) := by
  obtain ⟨credentials, hcredentials⟩ := Option.isSome_iff_exists.1 hc
  let conversation := converse loginUri (payloadBytes (loginPayload credentials)) true none 1 0
  have hlogin : Client.login true c = (do
      let reply ← conversation
      if !reply.isOk then throw (.authRequired reply.errorString)
      modify (·.setAuthenticated true) : Action Unit) c := by
    simp only [Client.login, Bind.bind, EStateM.bind, get_apply, hcredentials]
    rfl
  have hrest : Onward (finalState (conversation c)) (finalState (Client.login true c)) := by
    rw [hlogin]
    refine onward_bind (fun reply c₀ => ?_) c
    have hmark : Keeps (Onward c₀) (modify (·.setAuthenticated true) : Action PUnit) :=
      .modify fun c h => h.trans (onward_setAuthenticated c true)
    split
    · exact Keeps.throw.bind fun _ => hmark
    · exact hmark
  have hexchange := h.exchange loginUri (payloadBytes (loginPayload credentials))
  exact (hexchange.after (onward_converse _ _ _ (by simp) 1 0 c).further).after hrest.further

/-- What an attempt dials first is what connecting does, be it to log in. -/
theorem Aims.runStream (h : Aims a c) (request : SubscriptionRequest) (body : Bytes)
    (subscriber : Subscriber) :
    DialsFirst a c (finalState (runStream request body subscriber c)) := by
  have hnote := h.note .attempt
  have hrest : Further (finalState (logIn (c.note .attempt)))
      (finalState (Client.runStream request body subscriber c)) := by
    rw [runStream_apply]
    refine further_bind (fun _ c => ?_) _
    exact ((keeps_onward_ensureConnected true).finalState (.refl c)).further.trans
      (further_listen request body subscriber c)
  have hdials : DialsFirst a (c.note .attempt)
      (finalState (Client.runStream request body subscriber c)) := by
    cases hlogs : (c.note .attempt).logsIn with
    | true =>
        rw [logIn_of_logsIn hlogs] at hrest
        rw [logsIn, Bool.and_eq_true] at hlogs
        exact (hnote.login hlogs.1).after hrest
    | false =>
        refine hnote.ensureConnected.after ?_
        rw [runStream_apply]
        simp only [Bind.bind, EStateM.bind, logIn_of_skipped hlogs]
        exact further_listen request body subscriber _
  obtain ⟨new, hnew, hfirst⟩ := hdials
  exact ⟨.attempt :: new, by rw [hnew]; exact List.append_assoc .., hfirst⟩

end

/-! ## Dials to the leader -/

/-- Between two clients the address of a target is dialled. -/
def Dials (t : RedirectTarget) (c c' : Client) : Prop :=
  ∃ new, c'.world.trace = c.world.trace ++ new ∧ t.address ∈ dialled new

/-- The list of endpoints has the address of a target as one that has failed. -/
def listsFailed (c : Client) (t : RedirectTarget) : Bool :=
  (c.directory.ensureLoaded c.world).1.endpoints.any fun e => e.failed && e.isAt t.hostName t.port

/-- The channel is closed and the client has turned to a target, which leads the list and has not
failed. -/
structure AtLeader (t : RedirectTarget) (c : Client) : Prop where
  closed : c.channel.isConnected = false
  preferred : c.preferred = t.address
  loaded : c.directory.loaded = true
  leads : ∃ rest, c.directory.endpoints = .ofTarget t :: rest

section

variable {t : RedirectTarget} {c c' c'' d : Client} {uri : String} {body : Bytes}
  {targets : RedirectTargets}

theorem Dials.after (h : Dials t c c') (ho : Further c' c'') : Dials t c c'' := by
  obtain ⟨new, hnew, hmem⟩ := h
  obtain ⟨more, hmore⟩ := ho.world.trace
  refine ⟨new ++ more, by rw [← hmore, hnew, List.append_assoc], ?_⟩
  rw [dialled_append]
  exact List.mem_append_left _ hmem

theorem Dials.before (h : Dials t c' c'') (ho : Further c c') : Dials t c c'' := by
  obtain ⟨new, hnew, hmem⟩ := h
  obtain ⟨first, hfirst⟩ := ho.world.trace
  refine ⟨first ++ new, by rw [hnew, ← hfirst, List.append_assoc], ?_⟩
  rw [dialled_append]
  exact List.mem_append_right _ hmem

theorem closed_followRedirect (uri : String) (targets : RedirectTargets) (c : Client) :
    (followRedirect uri targets c).channel = .disconnected := by
  simp only [followRedirect, takeHandle]
  split
  · rw [hangUp_disconnected]
  · rw [hangUp_disconnected]
    rfl

theorem preferred_followRedirect (uri : String) (targets : RedirectTargets) (c : Client) :
    (followRedirect uri targets c).preferred = targets.leader.address := by
  have hat : (followRedirect uri targets c).handle.any
      (·.isAt targets.leader.hostName targets.leader.port) = true := isAt_takeHandle ..
  cases hh : (followRedirect uri targets c).handle with
  | none => simp [hh] at hat
  | some handle =>
      rw [hh, Option.any_some] at hat
      have haddress := Handle.address_of_isAt (a := targets.leader.address) hat
      simp only [preferred, hh]
      exact haddress

theorem directory_followRedirect (uri : String) (targets : RedirectTargets) (c : Client) :
    (followRedirect uri targets c).directory =
      (c.directory.ensureLoaded c.world).1.relisted targets := by
  have hload : (c.directory.ensureLoaded (c.note (.follow uri targets)).world).1 =
      (c.directory.ensureLoaded c.world).1 := ensureLoaded_of_store rfl
  rw [followRedirect, takeHandle_directory, ← hload]
  rfl

theorem followRedirect_dials (uri : String) (targets : RedirectTargets) (c : Client) :
    (followRedirect uri targets c).world.dials = c.world.dials := by
  have hremember :=
    c.directory.rememberRedirect_dials targets (c.note (.follow uri targets)).world
  simp only [followRedirect, takeHandle]
  split
  · rw [(World.passage_untouched.hangUp _).dials]
    exact hremember
  · exact (World.passage_untouched.hangUp _).dials.trans hremember

/-- Following a redirect turns to the leader. Its entry in the list has no flag if the list of
before had none there. -/
theorem atLeader_followRedirect (uri : String) (h : c.listsFailed targets.leader = false) :
    AtLeader targets.leader (followRedirect uri targets c) := by
  have hdirectory := directory_followRedirect uri targets c
  refine ⟨by rw [closed_followRedirect]; rfl, preferred_followRedirect .., ?_, ?_⟩
  · rw [hdirectory]
    exact (c.directory.configured_ensureLoaded c.world).2.1
  · rw [hdirectory]
    refine ⟨_, congrArg (· :: _) ?_⟩
    rw [Endpoint.ofTarget, Endpoint.fresh, Endpoint.mk.injEq]
    exact ⟨rfl, rfl, h⟩

/-- The address of the leader is the first to be dialled, be it as the preferred one or as the first
of the list that has not failed. -/
theorem AtLeader.order (h : AtLeader t c) : ∃ rest, order c = t.address :: rest := by
  obtain ⟨rest, hleads⟩ := h.leads
  have hunflagged : ∃ rest, c.directory.unflagged = t.address :: rest := by
    refine ⟨(rest.filter (!·.failed)).map Endpoint.address, ?_⟩
    simp only [Directory.unflagged, Directory.candidates, hleads, List.isEmpty_cons,
      Bool.false_eq_true, if_false]
    rfl
  obtain ⟨rest, hunflagged⟩ := hunflagged
  rw [Client.order, Directory.ensureLoaded_of_loaded h.loaded, h.preferred]
  split
  · rw [List.nil_append, hunflagged]
    exact ⟨_, List.eraseDupsBy_cons⟩
  · exact ⟨_, List.eraseDupsBy_cons⟩

theorem AtLeader.aims (h : AtLeader t c) : Aims t.address c := by
  obtain ⟨rest, horder⟩ := h.order
  exact ⟨h.closed, by rw [horder, List.head?_cons]⟩

theorem DialsFirst.dials (h : DialsFirst t.address c c') : Dials t c c' := by
  obtain ⟨new, hnew, hfirst⟩ := h
  exact ⟨new, hnew, List.mem_of_mem_head? hfirst⟩

/-! ## Rows -/

/-- A run, each try of which dials the leader it has turned to, dials it between the two redirects
of a row. -/
theorem Row.dials {σ : Type} {Step : σ → σ → Prop} {client : σ → Client}
    {Brings : σ → RedirectTargets → Client → Prop} {start : σ} {first second : RedirectTargets}
    {c₁ c₂ : Client} (run : σ → Client)
    (hbrings : ∀ s targets c, Brings s targets c → run s = c)
    (hlead : ∀ s t, AtLeader t (client s) → Dials t (client s) (run s))
    (hrun : ∀ s, Further (client s) (run s))
    (hstep : ∀ s s', Step s s' → Further (run s) (client s'))
    (h : Row Step client Brings uri start first second c₁ c₂)
    (hlisted : c₁.listsFailed first.leader = false) : Dials first.leader c₁ c₂ := by
  cases h with
  | @intro s s₁ s₂ _ _ _ _ _ _ _ hfollow hrest hsecond =>
      have hleader := atLeader_followRedirect uri hlisted
      rw [← hfollow] at hleader
      have hdials := hlead s₁ _ hleader
      -- The try at `s₁` dials the leader, and the second redirect comes after that.
      have hafter : Further (run s₁) c₂ := by
        rw [← hbrings s₂ second c₂ hsecond]
        clear hsecond
        induction hrest with
        | refl => exact .refl _
        | tail _ hnext ih => exact (ih.trans (hstep _ _ hnext)).trans (hrun _)
      have hfollowed := (onward_followRedirect uri first c₁).further
      rw [← hfollow] at hfollowed
      exact (hdials.after hafter).before hfollowed

theorem ExchangeRow.dials {login : Option (Action Unit)} {start : Stage}
    {first second : RedirectTargets} {c₁ c₂ : Client}
    (hl : ∀ x, login = some x → ∀ c, Onward c (finalState (x c)))
    (h : ExchangeRow uri body login start first second c₁ c₂)
    (hlisted : c₁.listsFailed first.leader = false) : Dials first.leader c₁ c₂ := by
  refine Row.dials (fun s : Stage => finalState (Client.exchange uri body true s.client)) ?_
    (fun s t hs => (hs.aims.exchange uri body).dials) (fun s => (onward_exchange ..).further)
    (fun s s' hround => (Round.onward hl hround).further) h hlisted
  rintro s targets c ⟨reply, hr, -, -⟩
  rw [hr]
  rfl

theorem LoginRow.dials {first second : RedirectTargets} {c₁ c₂ : Client}
    (h : LoginRow c first second c₁ c₂) (hlisted : c₁.listsFailed first.leader = false) :
    Dials first.leader c₁ c₂ := by
  cases h with
  | intro _ hrow => exact ExchangeRow.dials (by simp) hrow hlisted

theorem CallRow.dials {payload : Json} {first second : RedirectTargets} {c₁ c₂ : Client}
    (h : CallRow uri payload c first second c₁ c₂)
    (hlisted : c₁.listsFailed first.leader = false) : Dials first.leader c₁ c₂ := by
  cases h with
  | own hrow =>
      refine ExchangeRow.dials (fun x hx c => ?_) hrow hlisted
      rw [answer?] at hx
      split at hx <;> cases hx
      exact onward_login true c
  | login _ _ _ _ hrow => exact hrow.dials hlisted

theorem SubscriptionRow.dials {o : ClientOptions} {request : SubscriptionRequest}
    {subscriber : Subscriber} {start : Standing} {first second : RedirectTargets} {c₁ c₂ : Client}
    (h : SubscriptionRow o request body subscriber start first second c₁ c₂)
    (hlisted : c₁.listsFailed first.leader = false) : Dials first.leader c₁ c₂ := by
  cases h with
  | streamed hrow _ =>
      refine Row.dials
        (fun s : Standing => finalState (Client.runStream request body subscriber s.client)) ?_
        (fun s t hs => (hs.aims.runStream request body subscriber).dials)
        (fun s => further_runStream request body subscriber s.client)
        (fun s s' hstep => (Resumes.onward hstep).further) hrow hlisted
      intro s targets c hr
      rw [Standing.Redirected] at hr
      rw [hr]
      rfl
  | login _ _ hrow => exact hrow.dials hlisted

end

/-- The second of two redirects is given up on: the client stays as the redirect left it. -/
def GaveUp (label : String) (second : RedirectTargets) (c₂ c' : Client) : Prop :=
  label = second.leader.label ∧
    c' = { c₂ with lastError := some (RpcError.redirect label).message }

/-- A call or a subscription that gives up on account of a redirect has met two of them in a row. In
between it has dialled the leader that the first one named, unless that address was listed as failed
when the first one was followed. -/
theorem leader_dialled_between_redirects (label : String) (c c' : Client) :
    (∀ uri payload, call uri payload true c = .error (.redirect label) c' →
      (∃ first second c₁ c₂, CallRow uri payload c first second c₁ c₂ ∧
        GaveUp label second c₂ c') ∧
      ∀ first second c₁ c₂, CallRow uri payload c first second c₁ c₂ →
        c₁.listsFailed first.leader = false → Dials first.leader c₁ c₂) ∧
    ∀ request subscriber, subscribe request subscriber c = .error (.redirect label) c' →
      let start : Standing := ⟨.zero, { c with delivered := [] }⟩
      let body := payloadBytes request.payload
      (∃ first second c₁ c₂,
        SubscriptionRow c.options request body subscriber start first second c₁ c₂ ∧
          GaveUp label second c₂ c') ∧
      ∀ first second c₁ c₂,
        SubscriptionRow c.options request body subscriber start first second c₁ c₂ →
          c₁.listsFailed first.leader = false → Dials first.leader c₁ c₂ := by
  refine ⟨fun uri payload h => ⟨?_, fun _ _ _ _ => CallRow.dials⟩,
    fun request subscriber h => ⟨?_, fun _ _ _ _ => SubscriptionRow.dials⟩⟩
  · simp only [call, recording] at h
    rcases hr : request uri payload true c with ⟨reply, d⟩ | ⟨e, d⟩ <;> rw [hr] at h <;> cases h
    obtain ⟨first, second, c₁, hrow, hlabel⟩ := callRow_of_request hr
    exact ⟨first, second, c₁, d, hrow, hlabel, rfl⟩
  · let start : Standing := ⟨.zero, { c with delivered := [] }⟩
    obtain ⟨standings, hcourse⟩ := course_subscriptionLoop c.options request
      (payloadBytes request.payload) subscriber start.tally start.client
    simp only [subscribe, recording] at h
    rcases hr : subscriptionLoop c.options request (payloadBytes request.payload) subscriber .zero
      { c with delivered := [] } with ⟨reply, d⟩ | ⟨e, d⟩ <;> rw [hr] at h <;> cases h
    rw [show subscriptionLoop _ _ _ _ start.tally start.client = _ from hr] at hcourse
    obtain ⟨s, hreach, hends⟩ := hcourse.ends
    obtain ⟨first, second, c₁, hrow, hlabel⟩ := subscriptionRow_of_ends hreach rfl hends
    exact ⟨first, second, c₁, d, hrow, hlabel, rfl⟩

/-! ## A leader that is listed as failed -/

section

variable {c : Client} {a : Address} {others : List Address} {t : Transport} {cancels : Bool}
  {dials : List (Cued Dial)}

theorem dial_of_answered (hclosed : c.channel = .disconnected)
    (hdials : c.world.dials = ⟨.answered t, cancels⟩ :: dials) (a : Address) :
    ∃ endpoint h world, c.dial a.1 a.2 =
      .ok () { c with channel := .connected endpoint t, handle := some h, world } := by
  have hup : c.hangUp = c := by
    rcases c with ⟨options, channel, directory, handle, lastError, delivered, world⟩
    subst hclosed
    rfl
  rw [dial_eq, hup, World.connect]
  simp only [World.emit, hdials]
  rw [takeHandle]
  split
  · rename_i hat
    obtain ⟨h, hh, -⟩ := (Option.any_eq_true ..).1 hat
    exact ⟨_, h, _, by rw [← show c.handle = some h from hh]⟩
  · exact ⟨_, _, _, rfl⟩

/-- Where the next dial is answered, it is to the first address in turn. -/
theorem ensureConnected_of_answered (hclosed : c.channel = .disconnected)
    (hloaded : c.directory.loaded = true) (horder : order c = a :: others)
    (hdials : c.world.dials = ⟨.answered t, cancels⟩ :: dials) :
    ∃ endpoint h world, ensureConnected true c =
        .ok () { c with channel := .connected endpoint t, handle := some h, world } ∧
      h.isAt a.1 a.2 = true ∧ world.dials = dials ∧ world.store = c.world.store ∧
      dialled world.trace = dialled c.world.trace ++ [a] := by
  obtain ⟨endpoint, h, world, hdial⟩ := dial_of_answered hclosed hdials a
  have hspec := dial_spec a c
  rw [hdial] at hspec
  obtain ⟨⟨-, hleft, hstore, hdialled⟩, -, -, hat⟩ := hspec
  refine ⟨endpoint, h, world, ?_, hat, by rw [hleft, hdials]; rfl, hstore, hdialled⟩
  have hload : c.directory.ensureLoaded c.world = (c.directory, c.world) := by
    simp [Directory.ensureLoaded, Directory.load, hloaded]
  rw [order, hload] at horder
  rw [ensureConnected_eq, hclosed]
  simp only [Channel.isConnected, Bool.false_eq_true, if_false, if_true, failover, hload]
  cases hfailed : c.directory.isFailed c.preferred.1 c.preferred.2 with
  | true =>
      have hhead : c.directory.unflagged.head? = some a := by
        simp only [hfailed, if_true, List.nil_append] at horder
        cases hu : c.directory.unflagged with
        | nil => rw [hu, List.eraseDupsBy_nil] at horder; cases horder
        | cons b rest =>
            rw [hu, List.eraseDupsBy_cons, List.cons.injEq] at horder
            rw [horder.1]
            rfl
      rw [Directory.head?_unflagged, Option.map_eq_some_iff] at hhead
      obtain ⟨e, hfirst, rfl⟩ := hhead
      rw [if_pos rfl, walk_eq]
      simp only [hfirst]
      rw [show c.dial e.hostName e.port = _ from hdial]
  | false =>
      simp only [hfailed, Bool.false_eq_true, if_false, List.singleton_append,
        List.eraseDupsBy_cons, List.cons.injEq] at horder
      rw [if_neg (by simp), horder.1, hdial]

/-- A response that names `b` as the leader and `c` as the follower. -/
def diversion : Bytes :=
  octets ("\n\n\x7b\"requestStatus\":\"Redirect\"," ++
    "\"leader\":\x7b\"hostname\":\"b\",\"port\":1\x7d," ++
    "\"followers\":[\x7b\"hostname\":\"c\",\"port\":1\x7d]\x7d")

/-- What the response says. -/
def diverted : RedirectTargets := ⟨⟨"b", none, 1⟩, [⟨"c", none, 1⟩]⟩

theorem parse_diversion : ∃ reply, (∀ session, (Response.parse diversion session).1 = .ok reply) ∧
    reply.isRedirect = true ∧ reply.redirectTargets? = some diverted := by
  have hparse : ((Response.parse diversion .fresh).1.toOption.any fun reply =>
      reply.isRedirect && reply.redirectTargets? == some diverted) = true := by decide +kernel
  cases hr : (Response.parse diversion .fresh).1 with
  | error e => rw [hr] at hparse; cases hparse
  | ok reply =>
      rw [hr] at hparse
      obtain ⟨hredirect, htargets⟩ := Bool.and_eq_true_iff.1 hparse
      exact ⟨reply, fun session => (parse_fst ..).trans hr, hredirect, beq_iff_eq.1 htargets⟩

/-- A connection over which the response arrives. -/
def diverting : Transport := ⟨false, [⟨.data diversion, false⟩], [], []⟩

theorem dialled_eq_nil {p : Event → Bool} {events : List Event} (h : events.all p = true)
    (hp : ∀ host port settings, p (.dial host port settings) = false) : dialled events = [] := by
  refine List.filterMap_eq_nil_iff.2 fun e he => ?_
  cases e with
  | dial host port settings =>
      have hdial := List.all_eq_true.1 h _ he
      rw [hp] at hdial
      cases hdial
  | _ => rfl

theorem dialled_followRedirect (uri : String) (targets : RedirectTargets) (c : Client) :
    dialled (followRedirect uri targets c).world.trace = dialled c.world.trace := by
  obtain ⟨new, hnew, hall⟩ := grows_followRedirect uri targets c
  rw [hnew, World.emit, dialled_append, dialled_append, dialled_eq_nil hall fun _ _ _ => rfl]
  exact (List.append_nil _).trans (List.append_nil _)

/-- An exchange over an open channel dials nothing. -/
theorem dialled_transact {h : Handle} (uri : String) (body : Bytes)
    (hopen : c.channel.isConnected = true) (hh : c.handle = some h) :
    dialled (finalState (transact uri body c)).world.trace = dialled c.world.trace := by
  obtain ⟨frame, sent, heard, block, world, -, hanswers, hfinal, htrace⟩ :=
    transact_spec uri body hopen hh
  have hsent := dialled_eq_nil hanswers.sent_all fun _ _ _ => rfl
  have hheard := dialled_eq_nil hanswers.heard_all fun _ _ _ => rfl
  rw [hfinal, htrace, dialled_append, dialled_append, ← List.singleton_append, dialled_append,
    dialled_append, dialled_append, dialled_append, hsent, hheard]
  cases block <;> cases outcome (transact uri body c) <;> exact List.append_nil _

/-- A connection that takes everything brings a response, and is closed then. -/
theorem exchange_of_answered {tls : Bool} {reads : List (Cued ReadStep)} {s : Bytes}
    {reply : Reply} (uri : String) (body : Bytes) (hbrings : Brings [] s reads)
    (hparse : ∀ session, (Response.parse s session).1 = .ok reply)
    (hclosed : c.channel = .disconnected) (hloaded : c.directory.loaded = true)
    (horder : order c = a :: others)
    (hdials : c.world.dials = ⟨.answered ⟨tls, reads, [], []⟩, cancels⟩ :: dials) :
    ∃ h world, exchange uri body true c = .ok reply { c with handle := some h, world } ∧
      h.isAt a.1 a.2 = true ∧ world.dials = dials ∧ world.store = c.world.store ∧
      dialled world.trace = dialled c.world.trace ++ [a] := by
  obtain ⟨endpoint, h, w, hconnect, hat, hleft, hstore, hdialled⟩ :=
    ensureConnected_of_answered hclosed hloaded horder hdials
  let connected : Client :=
    { c with channel := .connected endpoint ⟨tls, reads, [], []⟩, handle := some h, world := w }
  obtain ⟨_, hwrite, -⟩ := writeRequest_of_unscripted (c := connected) uri body rfl rfl
  obtain ⟨world, huntouched, houtcome, hfinal⟩ := transact_of_brings hwrite rfl rfl hbrings
  have hsame := dialled_transact (c := connected) uri body rfl rfl
  rw [hfinal] at hsame
  refine ⟨{ h with session := (Response.parse s h.session).2 }, world, ?_, hat,
    huntouched.dials.trans hleft, huntouched.store.trans hstore, hsame.trans hdialled⟩
  rw [hparse] at houtcome
  rw [exchange_of_connected hconnect, hclosed]
  change transact uri body connected = _
  rcases hr : transact uri body connected with ⟨reply', d⟩ | ⟨e, d⟩ <;>
    rw [hr] at houtcome hfinal <;> cases houtcome
  exact congrArg _ hfinal

theorem exchange_of_diverting {reply : Reply} (uri : String) (body : Bytes)
    (hparse : ∀ session, (Response.parse diversion session).1 = .ok reply)
    (hclosed : c.channel = .disconnected) (hloaded : c.directory.loaded = true)
    (horder : order c = a :: others)
    (hdials : c.world.dials = ⟨.answered diverting, cancels⟩ :: dials) :
    ∃ h world, exchange uri body true c =
        .ok reply { c with handle := some h, world } ∧
      world.dials = dials ∧ world.store = c.world.store ∧
      dialled world.trace = dialled c.world.trace ++ [a] := by
  have hbrings : Brings [] (diversion ++ []) diverting.reads :=
    .arrives (by decide +kernel) (.spent _)
  rw [List.append_nil] at hbrings
  obtain ⟨h, world, hr, -, hrest⟩ :=
    exchange_of_answered uri body hbrings hparse hclosed hloaded horder hdials
  exact ⟨h, world, hr, hrest⟩

/-- A client that knows of `a`, `b` and `c`, and whether `b` has failed. All of them redirect to
`b`. -/
def misled (failed : Bool) : Client :=
  { fresh ⟨.ofHost "a" 1 false, 1000, false, none, 0, 0⟩
      ⟨[⟨.answered diverting, false⟩, ⟨.answered diverting, false⟩], [], false,
        .memory [] none none, []⟩ with
    directory := ⟨"http://a:1", .fresh "a" 1, [⟨"b", 1, failed⟩, .fresh "c" 1], true⟩ }

/-- Where `b` is listed as failed, `c` is dialled in its place. -/
theorem call_of_misled (failed : Bool) : ∃ c₁ c₂ new,
    call "/" .null true (misled failed) = .error (.redirect "b:1")
      { c₂ with lastError := some (RpcError.redirect "b:1").message } ∧
    CallRow "/" .null (misled failed) diverted diverted c₁ c₂ ∧
    c₁.listsFailed diverted.leader = failed ∧ c₂.world.trace = c₁.world.trace ++ new ∧
    dialled new = [if failed then ("c", 1) else ("b", 1)] := by
  obtain ⟨reply, hparse, hredirect, htargets⟩ := parse_diversion
  have horder : order (misled failed) = ("a", 1) :: (order (misled failed)).tail := by
    cases failed <;> decide +kernel
  obtain ⟨h₁, w₁, hr₁, hleft, hstore, hdialled⟩ :=
    exchange_of_diverting "/" (payloadBytes .null) hparse rfl rfl horder rfl
  let c₁ : Client := { misled failed with handle := some h₁, world := w₁ }
  have hr₁ : exchange "/" (payloadBytes .null) true (misled failed) = .ok reply c₁ := hr₁
  let turned := followRedirect "/" diverted c₁
  have hdirectory : turned.directory = (misled failed).directory.relisted diverted :=
    (directory_followRedirect "/" diverted c₁).trans rfl
  have horder' : order turned =
      (if failed then ("c", 1) else ("b", 1)) :: (order turned).tail := by
    have hloaded : ((misled failed).directory.relisted diverted).loaded = true := rfl
    rw [order, show turned.preferred = ("b", 1) from preferred_followRedirect .., hdirectory,
      Directory.ensureLoaded_of_loaded hloaded]
    clear_value turned
    clear hr₁ hdirectory
    cases failed <;> decide +kernel
  have hdials : turned.world.dials = [⟨.answered diverting, false⟩] :=
    (followRedirect_dials "/" diverted c₁).trans hleft
  obtain ⟨h₂, w₂, hr₂, -, -, hdialled'⟩ := exchange_of_diverting "/" (payloadBytes .null) hparse
    (closed_followRedirect "/" diverted c₁) (by rw [hdirectory]; rfl) horder' hdials
  let c₂ : Client := { turned with handle := some h₂, world := w₂ }
  have hr₂ : exchange "/" (payloadBytes .null) true turned = .ok reply c₂ := hr₂
  have hrequest : request "/" .null true (misled failed) = .error (.redirect "b:1") c₂ := by
    change converse "/" (payloadBytes .null) true (answer? "/") 1 0 (misled failed) = _
    rw [converse]
    simp only [Bind.bind, EStateM.bind, hr₁, hredirect, Bool.true_and, if_true, htargets,
      modify_apply]
    change converse "/" (payloadBytes .null) true (answer? "/") 0 0 turned = _
    rw [converse]
    simp only [Bind.bind, EStateM.bind, hr₂, hredirect, Bool.true_and, if_true, htargets]
    rfl
  obtain ⟨new, hnew⟩ : c₁.world.trace <+: c₂.world.trace := by
    have hexchange := onward_exchange "/" (payloadBytes .null) true turned
    rw [hr₂] at hexchange
    exact ((onward_followRedirect "/" diverted c₁).trans hexchange).world.trace
  refine ⟨c₁, c₂, new, ?_, ?_, ?_, hnew.symm, ?_⟩
  · simp only [call, recording, hrequest]
  · exact .own (.intro .refl ⟨reply, hr₁, hredirect, htargets⟩
      (.followed hr₁ (by rw [hredirect]; rfl) htargets) rfl .refl ⟨reply, hr₂, hredirect, htargets⟩)
  · cases failed <;> rfl
  · have hsame := dialled_followRedirect "/" diverted c₁
    rw [show w₂.trace = _ from hnew.symm, dialled_append, hsame] at hdialled'
    exact List.append_cancel_left hdialled'

end

/-- A leader that is not listed as failed is dialled. -/
theorem dials_of_misled : ∃ c₁ c₂, CallRow "/" .null (misled false) diverted diverted c₁ c₂ ∧
    Dials diverted.leader c₁ c₂ := by
  obtain ⟨c₁, c₂, new, hcall, hrow, hlisted, -, -⟩ := call_of_misled false
  exact ⟨c₁, c₂, hrow,
    ((leader_dialled_between_redirects _ _ _).1 _ _ hcall).2 _ _ _ _ hrow hlisted⟩

/-- A leader that is listed as failed is passed over between two redirects to it. -/
theorem not_dials_of_misled : ∃ label c', call "/" .null true (misled true) =
      .error (.redirect label) c' ∧
    ∃ first second c₁ c₂, CallRow "/" .null (misled true) first second c₁ c₂ ∧
      GaveUp label second c₂ c' ∧ ¬ Dials first.leader c₁ c₂ := by
  obtain ⟨c₁, c₂, new, hcall, hrow, -, hnew, hdialled⟩ := call_of_misled true
  refine ⟨_, _, hcall, diverted, diverted, c₁, c₂, hrow, ⟨rfl, rfl⟩, ?_⟩
  rintro ⟨new', hnew', hmem⟩
  obtain rfl : new = new' := List.append_cancel_left (hnew.symm.trans hnew')
  rw [hdialled] at hmem
  exact absurd hmem (by decide)

end ClusterRpc.Client
