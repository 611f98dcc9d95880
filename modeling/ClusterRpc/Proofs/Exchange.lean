import ClusterRpc.Proofs.Growth

/-!
# What an exchange adds to the trace

A request over an open channel: what of it is written, what is read, and what the client takes in of
that.
-/

namespace ClusterRpc.Client

/-- The session after a response has taken in its header block, if it has one. -/
theorem parse_snd (raw : Bytes) (session : Session) :
    (Response.parse raw session).2 = (Response.block? raw).elim session session.readHeaders := by
  rw [Response.parse, Response.block?]
  cases splitHead raw <;> rfl

theorem parse_fst (raw : Bytes) (session session' : Session) :
    (Response.parse raw session).1 = (Response.parse raw session').1 := by
  rw [Response.parse, Response.parse]
  cases splitHead raw <;> rfl

theorem learn_eq (c : Client) (handle : Handle) (block : Option Bytes) (session : Session) :
    ∃ world, c.learn handle block session =
        { c with handle := some { handle with session }, world } ∧
      world.trace = c.world.trace ++ (block.map .learn).toList := by
  cases block with
  | none => exact ⟨c.world, rfl, by simp⟩
  | some block => exact ⟨c.world.emit (.learn block), rfl, rfl⟩

theorem hangUp_eq {c : Client} (h : c.channel.isConnected = true) :
    c.hangUp = { c with channel := .disconnected, world := c.world.emit .shutdown } := by
  rcases c with ⟨options, channel, directory, handle, lastError, delivered, world⟩
  cases channel <;> first | rfl | simp [Channel.isConnected] at h

/-- Writing a request adds its octets in order. The channel stays open if all of them are written;
otherwise it is closed. -/
theorem send_connected {c : Client} (frame : RequestFrame) (h : c.channel.isConnected = true) :
    ∃ sent channel world, sent.all Event.isOutput = true ∧
      sent.flatMap Event.octetsWritten <+: frame.head ++ frame.body ∧
      world.trace = c.world.trace ++ sent ∧ channel.isConnected = true ∧
      ((send frame c = .ok () { c with channel, world } ∧
          sent.flatMap Event.octetsWritten = frame.head ++ frame.body) ∨
        ∃ e, send frame c =
          .error e { c with channel := .disconnected, world := world.emit .shutdown }) := by
  rcases c with ⟨options, channel, directory, handle, lastError, delivered, world⟩
  cases channel with
  | connected endpoint t =>
      obtain ⟨t', w', sent, hfinal, hsent, hall, hpre, hok⟩ :=
        Link.writeBoth_connected frame.head frame.body endpoint t world
      refine ⟨sent, .connected endpoint t', w', hall, hpre, hsent, rfl, ?_⟩
      simp only [send, onLink, link]
      rcases hr : (do Link.writeAll frame.head; Link.writeAll frame.body : Link.Action Unit)
        ⟨.connected endpoint t, world⟩ with ⟨⟨⟩, l⟩ | ⟨e, l⟩ <;> rw [hr] at hfinal hok <;>
        obtain rfl : l = ⟨.connected endpoint t', w'⟩ := hfinal
      · exact .inl ⟨rfl, hok rfl⟩
      · exact .inr ⟨_, rfl⟩
  | _ => simp [Channel.isConnected] at h

/-- Taking a whole response reads octets and closes the channel. -/
theorem receive_connected {c : Client} (h : c.channel.isConnected = true) :
    ∃ heard world, heard.all Event.isIntake = true ∧
      world.trace = c.world.trace ++ (heard ++ [.shutdown]) ∧
      (closing (onLink (Link.receive .empty)) c =
          .ok (heard.flatMap Event.octetsRead) { c with channel := .disconnected, world } ∨
        ∃ e, closing (onLink (Link.receive .empty)) c =
          .error e { c with channel := .disconnected, world }) := by
  rcases c with ⟨options, channel, directory, handle, lastError, delivered, world⟩
  cases channel with
  | connected endpoint t =>
      obtain ⟨t', w', heard, hfinal, hheard, hall, hok⟩ :=
        Link.receive_connected .empty endpoint t world
      refine ⟨heard, w'.emit .shutdown, hall, ?_, ?_⟩
      · simp [World.emit, hheard]
      · simp only [closing, onLink, link]
        rcases hr : Link.receive .empty ⟨.connected endpoint t, world⟩ with ⟨raw, l⟩ | ⟨e, l⟩ <;>
          rw [hr] at hfinal hok <;> obtain rfl : l = ⟨.connected endpoint t', w'⟩ := hfinal
        · obtain rfl : raw = heard.flatMap Event.octetsRead := hok raw rfl
          exact .inl rfl
        · exact .inr ⟨_, rfl⟩
  | _ => simp [Channel.isConnected] at h

theorem takeResponse_eq {c : Client} {h : Handle} (raw : Bytes) (hh : c.handle = some h) :
    ∃ world, world.trace = c.world.trace ++ ((Response.block? raw).map .learn).toList ∧
      finalState (takeResponse raw c) =
        { c with
          handle := some { h with
            session := (Response.block? raw).elim h.session h.session.readHeaders }
          world } ∧
      outcome (takeResponse raw c) = (Response.parse raw h.session).1 := by
  obtain ⟨world, heq, htrace⟩ :=
    c.learn_eq h (Response.block? raw) (Response.parse raw h.session).2
  rw [parse_snd] at heq
  refine ⟨world, htrace, ?_⟩
  simp only [takeResponse, hh, parse_snd, heq]
  cases (Response.parse raw h.session).1 <;> exact ⟨rfl, rfl⟩

/-- What the writing of a request and the reading of its response look like. A reply is read off the
octets of a whole response, after the whole request was written. -/
structure Answers (frame : RequestFrame) (h : Handle) (sent heard : List Event)
    (block : Option Bytes) (result : Except RpcError Reply) : Prop where
  sent_all : sent.all Event.isOutput = true
  sent_fits : sent.flatMap Event.octetsWritten <+: frame.head ++ frame.body
  heard_all : heard.all Event.isIntake = true
  block_heard : ∀ b, block = some b → Response.block? (heard.flatMap Event.octetsRead) = some b
  reply : ∀ r, result = .ok r →
    sent.flatMap Event.octetsWritten = frame.head ++ frame.body ∧
      (Response.parse (heard.flatMap Event.octetsRead) h.session).1 = .ok r

/-- Writing a request, taking the response and reading it. The channel is closed in the end. If a
whole response was read, its header block is taken in if it has one. -/
theorem respond_spec {c : Client} {h : Handle} (frame : RequestFrame)
    (hopen : c.channel.isConnected = true) (hh : c.handle = some h) :
    ∃ sent heard block world,
      Answers frame h sent heard block (outcome ((do
          send frame
          let raw ← closing (onLink (Link.receive .empty))
          takeResponse raw : Action Reply) c)) ∧
      finalState ((do
          send frame
          let raw ← closing (onLink (Link.receive .empty))
          takeResponse raw : Action Reply) c) =
        { c with
          channel := .disconnected
          handle := some { h with session := block.elim h.session h.session.readHeaders }
          world } ∧
      world.trace = c.world.trace ++ (sent ++ (heard ++ .shutdown ::
        (block.map .learn).toList)) := by
  have hsame : some { h with session := (none : Option Bytes).elim h.session h.session.readHeaders }
      = c.handle := hh.symm
  obtain ⟨sent, channel, w, hsent, hpre, htrace, hopen', hcases⟩ := send_connected frame hopen
  simp only [Bind.bind, EStateM.bind]
  rcases hcases with ⟨hsend, hwhole⟩ | ⟨e, hsend⟩
  · rw [hsend]
    obtain ⟨heard, w', hheard, htrace', hcases⟩ :=
      receive_connected (c := { c with channel, world := w }) hopen'
    rcases hcases with hreceive | ⟨e, hreceive⟩
    · dsimp only
      rw [hreceive]
      obtain ⟨w'', htrace'', hfinal, houtcome⟩ := takeResponse_eq
        (c := { c with channel := .disconnected, world := w' }) (heard.flatMap Event.octetsRead) hh
      refine ⟨sent, heard, _, w'', ⟨hsent, hpre, hheard, fun b hb => hb, ?_⟩, hfinal, ?_⟩
      · intro r hr
        exact ⟨hwhole, houtcome.symm.trans hr⟩
      · rw [htrace'', htrace', htrace]
        simp
    · dsimp only
      rw [hreceive]
      refine ⟨sent, heard, none, w', ⟨hsent, hpre, hheard, by simp, by rintro r ⟨⟩⟩, ?_, ?_⟩
      · rw [hsame]
        rfl
      · rw [htrace', htrace]
        simp
  · rw [hsend]
    refine ⟨sent, [], none, w.emit .shutdown, ⟨hsent, hpre, rfl, by simp, by rintro r ⟨⟩⟩, ?_, ?_⟩
    · rw [hsame]
      rfl
    · simp [World.emit, htrace]

/-- What one request over an open channel does. The request is made and written, octets are read,
and the channel is closed; if a whole response was read its header block, if it has one, is taken
in; and the end of the exchange is noted. -/
theorem transact_spec {c : Client} {h : Handle} (uri : String) (body : Bytes)
    (hopen : c.channel.isConnected = true) (hh : c.handle = some h) :
    ∃ frame sent heard block world,
      frame = RequestFrame.post (c.options.controller.requestUri uri) body h.hostName h.port
        h.session ∧
      Answers frame h sent heard block (outcome (transact uri body c)) ∧
      finalState (transact uri body c) =
        { c with
          channel := .disconnected
          handle := some { h with session := block.elim h.session h.session.readHeaders }
          world } ∧
      world.trace = c.world.trace ++ (.request uri h frame :: (sent ++ (heard ++ [.shutdown])) ++
        ((block.map .learn).toList ++ [.ofResult uri (outcome (transact uri body c))])) := by
  let frame :=
    RequestFrame.post (c.options.controller.requestUri uri) body h.hostName h.port h.session
  let respond : Action Reply := do
    send frame
    let raw ← closing (onLink (Link.receive .empty))
    takeResponse raw
  have hx : transact uri body c = noting uri respond (c.note (.request uri h frame)) := by
    simp only [transact, Client.frame, Bind.bind, EStateM.bind, hh]
    rfl
  obtain ⟨sent, heard, block, w, hanswers, hfinal, htrace⟩ :=
    respond_spec (c := c.note (.request uri h frame)) frame hopen hh
  change Answers _ _ _ _ _ (outcome (respond _)) at hanswers
  change finalState (respond _) = _ at hfinal
  refine ⟨frame, sent, heard, block, w.emit (.ofResult uri (outcome (transact uri body c))), rfl,
    ?_⟩
  rw [hx, noting]
  cases hr : respond (c.note (.request uri h frame)) with
  | ok reply c' =>
      rw [hr] at hfinal hanswers
      obtain rfl := hfinal
      exact ⟨hanswers, rfl, by simp [World.emit, note, htrace, Event.ofResult, outcome]⟩
  | error e c' =>
      rw [hr] at hfinal hanswers
      obtain rfl := hfinal
      exact ⟨hanswers, rfl, by simp [World.emit, note, htrace, Event.ofResult, outcome]⟩

end ClusterRpc.Client
