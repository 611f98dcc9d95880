import ClusterRpc.Proofs.Cancellation

/-!
# Whether a subscription request is made on a handle that has logged in

With credentials an attempt logs in first, unless its handle has logged in before. The login and the
subscription request go over connections of their own, though: in between the client searches for an
endpoint that answers. Where it ends up at another one, it takes up a fresh handle, and the request
is made on that.
-/

namespace ClusterRpc

/-! ## Requests in order -/

namespace Event

/-- Whether a fresh handle is taken up. -/
def isAdoption : Event → Bool := isAmong [.adopt]

/-- Neither the start of an attempt nor a request. -/
def isInner : Event → Bool := isApart [.attempt, .request]

end Event

/-- What comes after a request for `uri` that is answered: the end of its exchange, before another
request or attempt. -/
def Answered (uri : String) (after : List Event) : Prop :=
  ∃ middle result rest, after = middle ++ .ofResult uri result :: rest ∧
    middle.all Event.isInner = true

/-- What comes before a request of an attempt: the start of the attempt or the login that it begins
with, and the search for an endpoint that answers. The login counts unless a fresh handle is taken
up in the search. -/
def Approaches (loggedIn : Bool) (before : List Event) : Prop :=
  ∃ front start search, before = front ++ start :: search ∧
    (start = .attempt ∨ start = .mark true) ∧ search.all Event.isSearch = true ∧
    loggedIn = !search.any Event.isAdoption

/-- Each request is that of a login, and answered, or it is made for `uri` after a login. -/
def InOrder (uri : String) (events : List Event) : Prop :=
  ∀ before v h frame after, events = before ++ .request v h frame :: after →
    v = Client.loginUri ∧ Answered v after ∨ v = uri ∧ Approaches h.session.authenticated before

section

variable {uri : String} {events more : List Event}

theorem Answered.append (h : Answered uri events) : Answered uri (events ++ more) := by
  obtain ⟨middle, result, rest, rfl, hmiddle⟩ := h
  refine ⟨middle, result, rest ++ more, ?_, hmiddle⟩
  rw [List.append_assoc, List.cons_append]

theorem Approaches.behind {loggedIn : Bool} (h : Approaches loggedIn events)
    (more : List Event) : Approaches loggedIn (more ++ events) := by
  obtain ⟨front, start, search, rfl, hstart⟩ := h
  exact ⟨more ++ front, start, search, (List.append_assoc ..).symm, hstart⟩

theorem InOrder.append (h : InOrder uri events) (k : InOrder uri more) :
    InOrder uri (events ++ more) := by
  intro before v handle frame after hsplit
  rcases split_append hsplit with ⟨rest, hevents, rfl⟩ | ⟨middle, rfl, hmore⟩
  · exact (h before v handle frame rest hevents).imp_left fun hlogin =>
      ⟨hlogin.1, hlogin.2.append⟩
  · exact (k middle v handle frame after hmore).imp_right fun happroach =>
      ⟨happroach.1, happroach.2.behind events⟩

theorem InOrder.cons {e : Event} (he : ∀ v handle frame, e ≠ .request v handle frame)
    (h : InOrder uri events) : InOrder uri (e :: events) := by
  intro before v handle frame after hsplit
  cases before with
  | nil => exact absurd (List.cons.inj hsplit).1 (he v handle frame)
  | cons e' before =>
      obtain ⟨rfl, rfl⟩ := List.cons.inj hsplit
      exact (h before v handle frame after rfl).imp_right fun happroach =>
        ⟨happroach.1, happroach.2.behind [e]⟩

theorem inOrder_of_ne (h : ∀ v handle frame, .request v handle frame ∉ events) :
    InOrder uri events := by
  rintro before v handle frame after rfl
  exact absurd (List.mem_append_right before List.mem_cons_self) (h v handle frame)

theorem inOrder_of_all {p : Event → Bool} (h : events.all p = true)
    (hp : ∀ e, p e = true → e.isInner = true) : InOrder uri events := by
  refine inOrder_of_ne fun v handle frame hmem => ?_
  cases hp _ (List.all_eq_true.1 h _ hmem)

/-- A request that is followed by the end of its exchange. -/
theorem inOrder_answered (handle : Handle) (frame : RequestFrame) (result : Except RpcError Reply)
    (h : events.all Event.isInner = true) : InOrder uri
      (.request Client.loginUri handle frame :: (events ++ [.ofResult Client.loginUri result])) := by
  intro before v handle' frame' after hsplit
  cases before with
  | nil =>
      cases hsplit
      exact .inl ⟨rfl, events, result, [], rfl, h⟩
  | cons e before =>
      -- There is no other request.
      have hrest : (events ++ [Event.ofResult Client.loginUri result]).all Event.isInner = true := by
        rw [List.all_append, h]
        cases result <;> rfl
      have hmem : .request v handle' frame' ∈ events ++ [Event.ofResult Client.loginUri result] := by
        rw [(List.cons.inj hsplit).2]
        exact List.mem_append_right before List.mem_cons_self
      cases List.all_eq_true.1 hrest _ hmem

/-- A request that a login comes before. -/
theorem InOrder.request (h : InOrder uri events) {handle : Handle}
    (happroach : Approaches handle.session.authenticated events) (frame : RequestFrame) :
    InOrder uri (events ++ [.request uri handle frame]) := by
  intro before v handle' frame' after hsplit
  rcases split_append hsplit with ⟨rest, hevents, rfl⟩ | ⟨middle, rfl, hlast⟩
  · exact (h before v handle' frame' rest hevents).imp_left fun hlogin =>
      ⟨hlogin.1, hlogin.2.append⟩
  · cases middle with
    | nil =>
        cases hlast
        rw [List.append_nil]
        exact .inr ⟨rfl, happroach⟩
    | cons e middle => simp at hlast

end

/-! ## What is done in order -/

/-- The requests that are made between two worlds are in order. -/
def World.Orders (uri : String) (w w' : World) : Prop :=
  ∃ new, w'.trace = w.trace ++ new ∧ InOrder uri new

section

variable {uri : String} {u v w : World}

theorem World.Orders.refl (w : World) : World.Orders uri w w :=
  ⟨[], (List.append_nil _).symm, inOrder_of_ne (by simp)⟩

theorem World.Orders.trans (h : World.Orders uri u v) (k : World.Orders uri v w) :
    World.Orders uri u w := by
  obtain ⟨new, hnew, hordered⟩ := h
  obtain ⟨more, hmore, hordered'⟩ := k
  exact ⟨new ++ more, by rw [hmore, hnew, List.append_assoc], hordered.append hordered'⟩

theorem World.Grows.orders {p : Event → Bool} (h : World.Grows p v w)
    (hp : ∀ e, p e = true → e.isInner = true) : World.Orders uri v w := by
  obtain ⟨new, hnew, hall⟩ := h
  exact ⟨new, hnew, inOrder_of_all hall hp⟩

end

namespace Client

section

variable {subscriber : Subscriber} {uri : String} {w : World} {c c' c₀ : Client}

/-- Streaming makes no request. -/
theorem grows_pump (subscriber : Subscriber) (stream : RecordStream) (c : Client) :
    c.world.Grows Event.isInner (finalState (pump subscriber stream c)).world := by
  have hread (c : Client) :
      c.world.Grows Event.isInner (finalState (Link.read readChunk c.link)).world := by
    obtain ⟨ups, hshows⟩ := Link.shows_read readChunk c.link
    have hintake : c.world.Grows Event.isIntake (finalState (Link.read readChunk c.link)).world :=
      ⟨_, hshows.trace, Link.all_readEvents ups _⟩
    exact hintake.mono (Event.isApart_of_isAmong rfl)
  have hhand {c c'' : Client} {chunk : Bytes} {l : Link} {handle : Handle} {block : Option Bytes}
      {session : Session} {records : List (Except RpcError Record)}
      {result : Option (Except RpcError StreamOutcome)}
      (hr : Link.read readChunk c.link = .ok chunk l)
      (hd : handOverAll subscriber records ((c.withLink l).learn handle block session) =
        (result, c'')) : c.world.Grows Event.isInner c''.world := by
    have hread := hread c
    have hlearn : (c.withLink l).world.Grows Event.isInner
        ((c.withLink l).learn handle block session).world :=
      ⟨_, ((c.withLink l).shows_learn handle block session).trace, by cases block <;> rfl⟩
    have hhanded := grows_handOverAll (p := Event.isInner) rfl (fun _ => rfl) subscriber records
      ((c.withLink l).learn handle block session)
    rw [hr] at hread
    rw [hd] at hhanded
    exact (hread.trans hlearn).trans hhanded
  fun_induction pump subscriber stream c with
  | case1 stream c => exact .refl _
  | case2 stream c _ e l hr _ ih =>
      have hread := hread c
      rw [hr] at hread
      exact hread.trans ih
  | case3 stream c _ e l hr | case4 stream c _ l hr | case5 stream c _ chunk l hr =>
      have hread := hread c
      rwa [hr] at hread
  | case6 stream c _ chunk l hr _ handle _ fed drained c' c'' hd ih =>
      exact (hhand hr hd).trans ih
  | case7 stream c _ chunk l hr _ handle _ fed drained c' outcome c'' hd
  | case8 stream c _ chunk l hr _ handle _ fed drained c' e c'' hd =>
      exact hhand hr hd

theorem orders_followRedirect (uri v : String) (targets : RedirectTargets) (c : Client) :
    World.Orders uri c.world (followRedirect v targets c).world := by
  have hfollow : c.world.Grows Event.isInner (c.world.emit (.follow v targets)) :=
    World.grows_emit rfl
  exact (hfollow.orders fun _ h => h).trans
    ((grows_followRedirect v targets c).orders (Event.isApart_of_isAmong rfl))

/-! ## Logging in -/

/-- The exchange of a login is answered. -/
theorem ensures_exchange_login (body : Bytes) :
    Ensures (fun c => w.Orders uri c.world) (exchange loginUri body true)
      (fun _ c => w.Orders uri c.world ∧ c.handle.isSome = true)
      (fun c => w.Orders uri c.world) := by
  have hconnect : Ensures (fun c => w.Orders uri c.world) (ensureConnected true)
      (fun _ c => w.Orders uri c.world ∧ c.channel.isConnected = true)
      (fun c => w.Orders uri c.world) := by
    intro c h
    have hsearch := h.trans ((grows_ensureConnected true c).orders (Event.isApart_of_isAmong rfl))
    rcases hr : ensureConnected true c with ⟨⟨⟩, c'⟩ | ⟨e, c'⟩ <;> rw [hr] at hsearch
    · exact ⟨hsearch, isConnected_of_ensureConnected hr⟩
    · exact hsearch
  refine hconnect.bind fun _ => ?_
  rintro c ⟨h, hopen⟩
  cases hh : c.handle with
  | none =>
      have hunmade : transact loginUri body c = .error (.transport .notConnected) c := by
        simp only [transact, frame, Bind.bind, EStateM.bind, hh]
      rw [hunmade]
      exact h
  | some handle =>
      obtain ⟨frame, sent, heard, block, world, -, hanswers, hfinal, htrace⟩ :=
        transact_spec loginUri body hopen hh
      have hinner : (sent ++ (heard ++ [Event.shutdown]) ++ (block.map Event.learn).toList).all
          Event.isInner = true := by
        have hsent := List.all_eq_true.1 hanswers.sent_all
        have hheard := List.all_eq_true.1 hanswers.heard_all
        rw [List.all_append, List.all_append, List.all_append, Bool.and_eq_true, Bool.and_eq_true,
          Bool.and_eq_true]
        refine ⟨⟨?_, ?_, rfl⟩, by cases block <;> rfl⟩
        · exact List.all_eq_true.2 fun e he => e.isApart_of_isAmong rfl (hsent e he)
        · exact List.all_eq_true.2 fun e he => e.isApart_of_isAmong rfl (hheard e he)
      have horders : w.Orders uri world := by
        refine h.trans ⟨_, htrace, ?_⟩
        rw [List.cons_append, ← List.append_assoc]
        exact inOrder_answered handle frame _ hinner
      rcases hr : transact loginUri body c with ⟨reply, c'⟩ | ⟨e, c'⟩ <;> rw [hr] at hfinal <;>
        obtain rfl := hfinal
      · exact ⟨horders, rfl⟩
      · exact horders

/-- The client has logged in, or has searched for an endpoint since. -/
def Nears (uri : String) (w : World) (c : Client) : Prop :=
  ∃ new, c.world.trace = w.trace ++ new ∧ InOrder uri new ∧ Approaches c.isAuthenticated new

theorem Nears.orders (h : Nears uri w c) : w.Orders uri c.world := by
  obtain ⟨new, htrace, hordered, -⟩ := h
  exact ⟨new, htrace, hordered⟩

/-- A login that succeeds ends with its mark. -/
theorem ensures_login : Ensures (fun c => w.Orders uri c.world) (login true)
    (fun _ => Nears uri w) (fun c => w.Orders uri c.world) := by
  refine Ensures.get_bind fun c => ?_
  split
  · exact Ensures.throw
  refine (ensures_converse (ensures_exchange_login _) (fun _ _ h => h.1)
    (fun _ targets c h => h.trans (orders_followRedirect uri loginUri targets c)) (by simp)
    1 0).bind fun reply => ?_
  cases reply.isOk with
  | false =>
      -- The mark after the failure is not reached.
      refine Ensures.bind (Q := fun _ _ => False) ?_ fun _ => ?_
      · exact fun c hc => hc.1
      · exact fun c hc => hc.elim
  | true =>
      refine Ensures.modify fun c hc => ?_
      obtain ⟨⟨new, htrace, hordered⟩, hhandle⟩ := hc
      obtain ⟨handle, hh⟩ := Option.isSome_iff_exists.1 hhandle
      have hmark : (c.setAuthenticated true).world.trace = c.world.trace ++ [.mark true] ∧
          (c.setAuthenticated true).isAuthenticated = true := by
        rw [setAuthenticated, hh]
        exact ⟨rfl, rfl⟩
      refine ⟨new ++ [.mark true], ?_, hordered.append (inOrder_of_ne (by simp)), ?_⟩
      · rw [hmark.1, htrace, List.append_assoc]
      · exact ⟨new, .mark true, [], rfl, .inr rfl, rfl, hmark.2⟩

/-! ## The search after the login -/

/-- The search for an endpoint keeps the handle, and what it has logged in to, or takes up fresh
ones. -/
def Searches (c c' : Client) : Prop :=
  ∃ search, c'.world.trace = c.world.trace ++ search ∧ search.all Event.isSearch = true ∧
    if search.any Event.isAdoption then c'.isAuthenticated = false else c'.handle = c.handle

theorem searches_of_grows (hh : c'.handle = c.handle)
    (h : c.world.Grows (fun e => e.isSearch && !e.isAdoption) c'.world) : Searches c c' := by
  obtain ⟨search, htrace, hall⟩ := h
  have hsearch (e : Event) (he : e ∈ search) : e.isSearch = true ∧ e.isAdoption = false := by
    have he := List.all_eq_true.1 hall e he
    rwa [Bool.and_eq_true, Bool.not_eq_true'] at he
  have hnone : search.any Event.isAdoption = false :=
    List.any_eq_false.2 fun e he => by simp [(hsearch e he).2]
  refine ⟨search, htrace, List.all_eq_true.2 fun e he => (hsearch e he).1, ?_⟩
  rw [hnone]
  exact hh

theorem Searches.refl (c : Client) : Searches c c := searches_of_grows rfl (.refl _)

theorem Searches.trans (h : Searches c₀ c) (k : Searches c c') : Searches c₀ c' := by
  obtain ⟨search, htrace, hall, hkept⟩ := h
  obtain ⟨more, hmore, hall', hkept'⟩ := k
  refine ⟨search ++ more, by rw [hmore, htrace, List.append_assoc], ?_, ?_⟩
  · rw [List.all_append, hall, hall']
    rfl
  · rw [List.any_append]
    cases hadopted : more.any Event.isAdoption with
    | true =>
        rw [hadopted] at hkept'
        rw [Bool.or_true]
        exact hkept'
    | false =>
        rw [hadopted] at hkept'
        rw [Bool.or_false]
        have hsame : c'.handle = c.handle := hkept'
        rw [isAuthenticated, hsame]
        exact hkept

theorem searches_takeHandle (c : Client) (hostName : String) (port : Nat) :
    Searches c (c.takeHandle hostName port) := by
  rw [takeHandle]
  split
  · exact .refl c
  · exact ⟨[.adopt hostName port], rfl, rfl, rfl⟩

theorem searches_dial (hostName : String) (port : Nat) (c : Client) :
    Searches c (finalState (c.dial hostName port)) := by
  have hdial : c.world.Grows (fun e => e.isSearch && !e.isAdoption)
      (c.hangUp.world.connect hostName port c.options.transportSettings).2 :=
    (grows_hangUp rfl c).trans (World.grows_connect rfl rfl rfl _)
  rw [dial_eq]
  rcases hr : c.hangUp.world.connect hostName port c.options.transportSettings with ⟨e | t, world⟩ <;>
    rw [hr] at hdial
  · exact searches_of_grows rfl hdial
  · have hopened : Searches c
        { c with channel := .connected (endpointLabel hostName port) t, world } :=
      searches_of_grows rfl hdial
    exact hopened.trans (searches_takeHandle ..)

theorem searches_ensureConnected (c : Client) :
    Searches c (finalState (ensureConnected true c)) := by
  have hsearch : Searching (Searches c) := {
    dialPreferred := fun _ h => h.trans (searches_dial ..)
    dialUntried := fun _ _ _ h => h.trans (searches_dial ..)
    load := fun _ h => h.trans (searches_of_grows rfl (Directory.grows_ensureLoaded rfl ..))
    flag := fun _ _ _ _ h => h.trans (searches_of_grows rfl (.refl _)) }
  exact hsearch.ensureConnected true (.refl c)

theorem Nears.search (h : Nears uri w c) (hsearch : Searches c c') : Nears uri w c' := by
  obtain ⟨new, htrace, hordered, front, start, search, rfl, hstart, hall, hlogin⟩ := h
  obtain ⟨more, hmore, hall', hkept⟩ := hsearch
  refine ⟨front ++ start :: search ++ more, by rw [hmore, htrace, List.append_assoc],
    hordered.append (inOrder_of_all hall' (Event.isApart_of_isAmong rfl)),
    front, start, search ++ more, by simp, hstart, ?_, ?_⟩
  · rw [List.all_append, hall, hall']
    rfl
  · rw [List.any_append]
    cases hadopted : more.any Event.isAdoption with
    | true =>
        rw [hadopted] at hkept
        rw [Bool.or_true]
        exact hkept
    | false =>
        rw [hadopted] at hkept
        have hsame : c'.handle = c.handle := hkept
        rw [Bool.or_false, isAuthenticated, hsame]
        exact hlogin

/-! ## Attempts -/

theorem ensures_logIn : Ensures (fun c => c.options.credentials.isSome = true ∧
      ∃ new, c.world.trace = w.trace ++ (new ++ [.attempt]) ∧ InOrder uri (new ++ [.attempt])) logIn
    (fun _ => Nears uri w) (fun c => w.Orders uri c.world) := by
  rintro c ⟨hcredentials, new, htrace, hordered⟩
  cases hauth : c.isAuthenticated with
  | true =>
      have hskip : logIn c = .ok () c :=
        logIn_of_skipped (by rw [logsIn, hauth, Bool.not_true, Bool.and_false])
      rw [hskip]
      exact ⟨_, htrace, hordered, new, .attempt, [], rfl, .inl rfl, rfl, hauth⟩
  | false =>
      have hlogin : logIn c = login true c :=
        logIn_of_logsIn (by rw [logsIn, hcredentials, hauth]; rfl)
      rw [hlogin]
      exact ensures_login c ⟨_, htrace, hordered⟩

/-- A request that is made after a login is in order. -/
theorem ensures_writeRequest (body : Bytes) :
    Ensures (fun c => Nears uri w c ∧ c.channel.isConnected = true) (writeRequest uri body)
      (fun _ c => w.Orders uri c.world) (fun c => w.Orders uri c.world) := by
  have hframe : Ensures (fun c => Nears uri w c ∧ c.channel.isConnected = true) (frame uri body)
      (fun _ c => w.Orders uri c.world ∧ c.channel.isConnected = true)
      (fun c => w.Orders uri c.world) := by
    rintro c ⟨hnear, hopen⟩
    cases hh : c.handle with
    | none =>
        simp only [frame, hh]
        exact hnear.orders
    | some handle =>
        obtain ⟨new, htrace, hordered, happroach⟩ := hnear
        simp only [isAuthenticated, hh, Option.any_some] at happroach
        let made := RequestFrame.post (c.options.controller.requestUri uri) body handle.hostName
          handle.port handle.session
        simp only [frame, hh]
        refine ⟨⟨new ++ [.request uri handle made], ?_, hordered.request happroach made⟩, hopen⟩
        rw [← List.append_assoc, ← htrace]
        rfl
  refine hframe.bind fun frame => ?_
  rintro c ⟨h, hopen⟩
  obtain ⟨sent, channel, world, hsent, -, htrace, -, hcases⟩ := send_connected frame hopen
  have hwritten : w.Orders uri world :=
    h.trans ⟨sent, htrace, inOrder_of_all hsent (Event.isApart_of_isAmong rfl)⟩
  rcases hcases with ⟨hsend, -⟩ | ⟨e, hsend⟩ <;> rw [hsend]
  · exact hwritten
  · exact hwritten.trans (World.Grows.orders (World.grows_emit rfl) fun _ he => he)

theorem ensures_runStream (request : SubscriptionRequest) (body : Bytes) (subscriber : Subscriber) :
    Ensures (fun c => c.options.credentials.isSome = true ∧ w.Orders request.uri c.world)
      (runStream request body subscriber) (fun _ c => w.Orders request.uri c.world)
      (fun c => w.Orders request.uri c.world) := by
  rw [runStream_eq]
  refine Ensures.bind (Q := fun _ c => w.Orders request.uri c.world) ?_ fun _ => ?_
  · refine Ensures.bind (Ensures.modify ?_) fun _ => ensures_logIn.bind fun _ =>
      Ensures.bind (Q := fun _ c => Nears request.uri w c ∧ c.channel.isConnected = true) ?_
        fun _ => ensures_writeRequest body
    · rintro c ⟨hcredentials, new, htrace, hordered⟩
      refine ⟨hcredentials, new, ?_, hordered.append (inOrder_of_ne (by simp))⟩
      rw [← List.append_assoc, ← htrace]
      rfl
    · intro c h
      have hsearch := h.search (searches_ensureConnected c)
      rcases hr : ensureConnected true c with ⟨⟨⟩, c'⟩ | ⟨e, c'⟩ <;> rw [hr] at hsearch
      · exact ⟨hsearch, isConnected_of_ensureConnected hr⟩
      · exact hsearch.orders
  · refine Keeps.closing (keeps_of_finalState ?_) ?_
    · exact fun c h => h.trans ((grows_pump subscriber .fresh c).orders fun _ he => he)
    · exact fun c h => h.trans ((grows_hangUp rfl c).orders fun _ he => he)

theorem resuming_orders (request : SubscriptionRequest) (body : Bytes) (subscriber : Subscriber) :
    Resuming request body subscriber fun c =>
      c.options.credentials.isSome = true ∧ w.Orders request.uri c.world where
  runStream := by
    refine keeps_of_finalState fun c hc => ⟨?_, ?_⟩
    · rw [(further_runStream request body subscriber c).options]
      exact hc.1
    · have hrun := ensures_runStream request body subscriber c hc
      cases hr : runStream request body subscriber c <;> rw [hr] at hrun <;> exact hrun
  followRedirect := fun targets c hc => ⟨by rw [(onward_followRedirect ..).options]; exact hc.1,
    hc.2.trans (orders_followRedirect ..)⟩
  logout := fun c hc => ⟨by rw [(onward_setAuthenticated ..).options]; exact hc.1,
    hc.2.trans ((grows_setAuthenticated rfl c).orders fun _ he => he)⟩
  pause := fun c hc => ⟨hc.1, hc.2.trans ((World.grows_pause rfl rfl c.world).orders fun _ he => he)⟩
  refreshEndpoints := fun c hc =>
    ⟨hc.1, hc.2.trans ((Directory.grows_ensureLoaded rfl ..).orders fun _ he => he)⟩

end

/-- With credentials a subscription makes its requests after a login: apart from those of the
logins, which are answered, each request comes after the start of an attempt that is logged in or
after the login that the attempt begins with, with nothing but the search for an endpoint in
between. Its handle has logged in unless a fresh one was taken up in that search. -/
theorem subscribe_requests_after_login (request : SubscriptionRequest) (subscriber : Subscriber)
    {c : Client} (hcredentials : c.options.credentials.isSome = true) :
    ∃ new, (finalState (subscribe request subscriber c)).world.trace = c.world.trace ++ new ∧
      ∀ before uri h frame after, new = before ++ .request uri h frame :: after →
        uri = loginUri ∧ Answered uri after ∨
          uri = request.uri ∧ Approaches h.session.authenticated before := by
  obtain ⟨-, -, hworld⟩ := subscribe_spec request subscriber c
  rw [hworld]
  exact ((resuming_orders request (payloadBytes request.payload) subscriber).loop c.options .zero
    { c with delivered := [] } ⟨hcredentials, World.Orders.refl _⟩).2

/-! ## A login that is lost in the search -/

/-- Once the search is over the request is made on the handle that it ends up with. -/
theorem request_of_connected (request : SubscriptionRequest) (body : Bytes)
    (subscriber : Subscriber) {c c' c'' : Client} {h : Handle}
    (hlogIn : logIn (c.note .attempt) = .ok () c')
    (hconnect : ensureConnected true c' = .ok () c'') (hh : c''.handle = some h) :
    ∃ frame rest, (finalState (runStream request body subscriber c)).world.trace =
      c''.world.trace ++ .request request.uri h frame :: rest := by
  let frame := RequestFrame.post (c''.options.controller.requestUri request.uri) body h.hostName
    h.port h.session
  let made := c''.note (.request request.uri h frame)
  have hrest : Further made (finalState (runStream request body subscriber c)) := by
    have hsend : Further made (finalState (send frame made)) :=
      ((keeps_onward_send frame).finalState (.refl made)).further
    have hrun : runStream request body subscriber c =
        (send frame >>= fun _ => closing (pump subscriber .fresh)) made := by
      rw [runStream_apply]
      simp only [listen, writeRequest, Client.frame, Bind.bind, EStateM.bind, hlogIn, hconnect, hh]
      rfl
    rw [hrun]
    exact hsend.trans (further_bind (fun _ c => further_closing_pump subscriber .fresh c) made)
  obtain ⟨rest, hrest⟩ := hrest.world.trace
  refine ⟨frame, rest, ?_⟩
  rw [← hrest]
  simp [made, note, World.emit]

/-- Where the first endpoint in turn refuses and the second one answers, the second one it is. -/
theorem ensureConnected_of_refused {c : Client} {a b : Address} {others : List Address}
    {e : TransportError} {t : Transport} (hclosed : c.channel.isConnected = false)
    (horder : order c = a :: b :: others) (hrefused : c.world.answer 0 a = .error e)
    (hfailover : e.isFailover = true) (hanswered : c.world.answer 1 b = .ok t) :
    ∃ c', ensureConnected true c = .ok () c' ∧ c'.handle.any (·.isAt b.1 b.2) = true := by
  obtain ⟨failures, rest, hwalked⟩ := failover_spec c
  have hsequence := hwalked.sequence
  have hends := hwalked.ends
  rw [horder] at hsequence
  have hconnect : ensureConnected true c = failover c := by
    rw [ensureConnected_eq, hclosed]
    rfl
  match failures, hsequence with
  | [], hsequence =>
      -- The first dial would decide.
      rw [List.map_nil, List.nil_append] at hsequence
      rw [← hsequence, Decided, List.length_nil, hrefused] at hends
      cases hfailover.symm.trans hends.2
  | [failure], hsequence =>
      obtain ⟨-, hrest⟩ := List.cons.inj hsequence
      rw [← show b :: others = rest from hrest, Decided, List.length_singleton, hanswered] at hends
      obtain ⟨hok, -, hat⟩ := hends
      rcases hr : failover c with ⟨⟨⟩, c'⟩ | ⟨e', c'⟩ <;> rw [hr] at hok hat
      · exact ⟨c', hconnect.trans hr, hat⟩
      · cases hok
  | failure :: (a', e') :: failures, hsequence =>
      -- The second dial would fail.
      obtain ⟨-, hrest⟩ := List.cons.inj hsequence
      obtain ⟨rfl, -⟩ := List.cons.inj hrest
      have hfailed := (hwalked.failed 1 b e' rfl).1
      cases hanswered.symm.trans hfailed

/-- A search that does not end up at the endpoint of the handle loses the login. -/
theorem Searches.not_isAuthenticated {c c' : Client} {a b : Address} (h : Searches c c')
    (ha : c.handle.any (·.isAt a.1 a.2) = true) (hb : c'.handle.any (·.isAt b.1 b.2) = true)
    (hab : a ≠ b) : c'.isAuthenticated = false := by
  obtain ⟨search, -, -, hkept⟩ := h
  cases hadopted : search.any Event.isAdoption with
  | true =>
      rw [hadopted] at hkept
      exact hkept
  | false =>
      rw [hadopted] at hkept
      rw [show c'.handle = c.handle from hkept] at hb
      cases hh : c.handle with
      | none => rw [hh] at ha; cases ha
      | some handle =>
          rw [hh, Option.any_some] at ha hb
          exact absurd ((Handle.address_of_isAt ha).symm.trans (Handle.address_of_isAt hb)) hab

/-- A login whose exchange brings an acceptance is marked as one. -/
theorem login_of_accepted {credentials : Credentials} {reply : Reply} {c c' : Client}
    (hcredentials : c.options.credentials = some credentials)
    (hexchange : exchange loginUri (payloadBytes (loginPayload credentials)) true c = .ok reply c')
    (hredirect : reply.isRedirect = false) (hok : reply.isOk = true) :
    login true c = .ok () (c'.setAuthenticated true) := by
  have hconverse : converse loginUri (payloadBytes (loginPayload credentials)) true none 1 0 c =
      .ok reply c' := by
    rw [converse]
    simp only [Bind.bind, EStateM.bind, hexchange, hredirect, Bool.false_and, Bool.false_eq_true,
      if_false]
    cases reply.isAuthRequired <;> rfl
  simp only [login, Bind.bind, EStateM.bind, get_apply, hcredentials, hconverse, hok, Bool.not_true,
    Bool.false_eq_true, if_false]
  rfl

/-- A response that accepts a login. -/
def acceptance : Bytes := octets "\n\n\x7b\"requestStatus\":\"ok\"\x7d"

theorem parse_acceptance : ∃ reply,
    (∀ session, (Response.parse acceptance session).1 = .ok reply) ∧ reply.isRedirect = false ∧
      reply.isOk = true := by
  have hparse : ((Response.parse acceptance .fresh).1.toOption.any fun reply =>
      reply.isRedirect == false && reply.isOk) = true := by decide +kernel
  cases hr : (Response.parse acceptance .fresh).1 with
  | error e => rw [hr] at hparse; cases hparse
  | ok reply =>
      rw [hr] at hparse
      obtain ⟨hredirect, hok⟩ := Bool.and_eq_true_iff.1 hparse
      exact ⟨reply, fun session => (parse_fst ..).trans hr, beq_iff_eq.1 hredirect, hok⟩

/-- A client that knows of `a` and `b`. Once it has logged in at `a` only `b` answers. -/
def forsaken : Client :=
  { fresh ⟨.ofHost "a" 1 false, 1000, false, some ⟨"u", "p"⟩, 0, 0⟩
      ⟨[⟨.answered ⟨false, [⟨.data acceptance, false⟩], [], []⟩, false⟩,
        ⟨.refused World.unanswered, false⟩, ⟨.answered ⟨false, [], [], []⟩, false⟩], [], false,
        .memory [] none none, []⟩ with
    directory := ⟨"http://a:1", .fresh "a" 1, [.fresh "a" 1, .fresh "b" 1], true⟩ }

theorem logIn_of_forsaken : ∃ h w, logIn (forsaken.note .attempt) =
      .ok () { forsaken with handle := some h, world := w } ∧
    h.isAt "a" 1 = true ∧ w.dials = forsaken.world.dials.tail := by
  obtain ⟨reply, hparse, hredirect, hok⟩ := parse_acceptance
  have hbrings : Brings [] (acceptance ++ []) [⟨.data acceptance, false⟩] :=
    .arrives (by decide +kernel) (.spent _)
  rw [List.append_nil] at hbrings
  have horder : order (forsaken.note .attempt) = ("a", 1) :: [("b", 1)] := by decide +kernel
  obtain ⟨h, w, hexchange, hat, hdials, -, -⟩ := exchange_of_answered loginUri
    (payloadBytes (loginPayload ⟨"u", "p"⟩)) hbrings hparse rfl rfl horder rfl
  refine ⟨{ h with session := { h.session with authenticated := true } }, w.emit (.mark true), ?_,
    hat, hdials⟩
  rw [logIn_of_logsIn rfl]
  exact login_of_accepted rfl hexchange hredirect hok

/-- The request of its subscription is made on a handle that has not logged in. -/
theorem request_of_forsaken (subscriber : Subscriber) : ∃ before h frame after,
    (finalState (subscribe .events subscriber forsaken)).world.trace =
      before ++ .request SubscriptionRequest.events.uri h frame :: after ∧
    h.session.authenticated = false := by
  obtain ⟨h, w, hlogIn, hat, hdials⟩ := logIn_of_forsaken
  let c₁ : Client := { forsaken with handle := some h, world := w }
  have horder : order c₁ = ("a", 1) :: [("b", 1)] := by
    have hpreferred : c₁.preferred = ("a", 1) := Handle.address_of_isAt (a := ("a", 1)) hat
    rw [order, hpreferred, Directory.ensureLoaded_of_loaded rfl]
    change (((if forsaken.directory.isFailed "a" 1 then [] else [("a", 1)]) ++
      forsaken.directory.unflagged).eraseDupsBy sameAddress) = _
    decide +kernel
  have hrefused : w.answer 0 ("a", 1) = .error (World.unanswered "a:1") := by
    rw [World.answer, hdials]
    rfl
  have hanswered : w.answer 1 ("b", 1) = .ok ⟨false, [], [], []⟩ := by
    rw [World.answer, hdials]
    rfl
  obtain ⟨c₂, hconnect, hb⟩ :=
    ensureConnected_of_refused (c := c₁) rfl horder hrefused rfl hanswered
  have hsearch := searches_ensureConnected c₁
  rw [hconnect] at hsearch
  have hlost : c₂.isAuthenticated = false :=
    hsearch.not_isAuthenticated (a := ("a", 1)) hat hb (by decide)
  cases hh : c₂.handle with
  | none => rw [hh] at hb; cases hb
  | some handle =>
      rw [isAuthenticated, hh, Option.any_some] at hlost
      obtain ⟨frame, rest, hrun⟩ := request_of_connected .events
        (payloadBytes SubscriptionRequest.events.payload) subscriber hlogIn hconnect hh
      obtain ⟨more, hmore⟩ := trace_of_first (c := forsaken) .events subscriber rfl
      refine ⟨c₂.world.trace, handle, frame, rest ++ more, ?_, hlost⟩
      rw [← hmore]
      refine (congrArg (· ++ more) hrun).trans ?_
      rw [List.append_assoc, List.cons_append]

/-- The login is lost in the search that comes after it. -/
theorem approaches_of_forsaken : forsaken.options.credentials.isSome = true ∧
    ∃ before h frame after,
      (finalState (subscribe .events (fun _ => false) forsaken)).world.trace =
        before ++ .request SubscriptionRequest.events.uri h frame :: after ∧
      Approaches false before := by
  refine ⟨rfl, ?_⟩
  obtain ⟨before, h, frame, after, htrace, hlost⟩ := request_of_forsaken fun _ => false
  obtain ⟨new, hnew, hall⟩ :=
    subscribe_requests_after_login .events (fun _ => false) (c := forsaken) rfl
  rcases hall before _ h frame after (hnew.symm.trans htrace) with ⟨hlogin, -⟩ | ⟨-, happroach⟩
  · exact absurd hlogin (by decide)
  · exact ⟨before, h, frame, after, htrace, hlost ▸ happroach⟩

/-- Credentials do not see to it that the subscription request is made on a handle that has logged
in. -/
theorem request_without_login :
    ¬ ∀ before h frame after,
      (finalState (subscribe .events (fun _ => false) forsaken)).world.trace =
        before ++ .request SubscriptionRequest.events.uri h frame :: after →
      h.session.authenticated = true := by
  intro hall
  obtain ⟨before, h, frame, after, htrace, hlost⟩ := request_of_forsaken fun _ => false
  cases hlost.symm.trans (hall before h frame after htrace)

end Client

end ClusterRpc
