import ClusterRpc.Proofs.Isolation
import ClusterRpc.Proofs.Streams

/-!
# Connections are opened and released in turn

A client holds one connection at most. The trace has it that each one is shut down, once, before the
next one is dialled, and that nothing is written or read in between; what is left open at the end is
what the channel holds. Closing is spread over many places, so the ledger of the trace and the
channel are followed side by side.
-/

namespace ClusterRpc

namespace Event

/-- Leaves it open whether there is an open connection: none is opened and none is shut down. -/
def isUse : Event → Bool := isApart [.dial, .opened, .shutdown]

/-- Has nothing to do with a connection. -/
def isOffWire : Event → Bool := isApart [.dial, .opened, .shutdown, .read, .write]

end Event

/-- Connections are opened and shut down in turn, and used in between. The open ones are those that
were opened and not shut down since. -/
structure Alternates (trace : List Event) : Prop where
  /-- No other connection is open when one is dialled. -/
  dial : ∀ before host port settings after, trace = before ++ .dial host port settings :: after →
    before.count .opened = before.count .shutdown
  /-- Nor is one when the dial is answered. -/
  opened : ∀ before after, trace = before ++ .opened :: after →
    before.count .opened = before.count .shutdown
  /-- The one connection that is open is shut down. -/
  shutdown : ∀ before after, trace = before ++ .shutdown :: after →
    before.count .opened = before.count .shutdown + 1
  /-- What is read comes from the one connection that is open. -/
  read : ∀ before bytes after, trace = before ++ .read bytes :: after →
    before.count .opened = before.count .shutdown + 1
  /-- What is written goes to the one connection that is open. -/
  write : ∀ before bytes after, trace = before ++ .write bytes :: after →
    before.count .opened = before.count .shutdown + 1

/-! ## Events in turn -/

namespace Ledger

/-- Which events are in turn, given those before them: a connection is dialled and opened while none
is open, and used and shut down while one is. -/
def InTurn (L : Ledger) : Event → Prop
  | .dial .. | .opened => L.isOpen = false
  | .read _ | .write _ | .shutdown => L.isOpen = true
  | _ => True

variable {L : Ledger} {events new : List Event}

theorem isOpen_note {e : Event} (h : e.isUse = true) : (L.note e).isOpen = L.isOpen := by
  cases e with
  | dial | opened | shutdown => cases h
  | reply uri r =>
      rw [note]
      split <;> rfl
  | _ => rfl

theorem isOpen_notes (h : new.all Event.isUse = true) : (L.notes new).isOpen = L.isOpen := by
  induction new generalizing L with
  | nil => rfl
  | cons e new ih =>
      rw [List.all_cons, Bool.and_eq_true] at h
      rw [notes_cons, ih h.2, isOpen_note h.1]

theorem inTurn_of_isOffWire (L : Ledger) (e : Event) (h : e.isOffWire = true) : L.InTurn e := by
  cases e with
  | dial | opened | shutdown | read | write => cases h
  | _ => trivial

/-- An open connection may be used as long as it stays open. -/
theorem admits_use (h : new.all Event.isUse = true) (hopen : L.isOpen = true) :
    L.Admits InTurn new := by
  induction new generalizing L with
  | nil => trivial
  | cons e new ih =>
      rw [List.all_cons, Bool.and_eq_true] at h
      refine ⟨?_, ih h.2 ((isOpen_note h.1).trans hopen)⟩
      cases e with
      | dial | opened | shutdown => cases h.1
      | read | write => exact hopen
      | _ => trivial

/-- In a trace that is in turn all connections but the open one have been shut down. -/
theorem Admits.balance (h : L.Admits InTurn events) :
    events.count .opened + L.isOpen.toNat =
      events.count .shutdown + (L.notes events).isOpen.toNat := by
  induction events generalizing L with
  | nil => simp
  | cons e events ih =>
      have hrest := ih h.2
      have hturn := h.1
      rw [notes_cons]
      cases e with
      | dial host port settings =>
          have hnote : (L.note (.dial host port settings)).isOpen = false := rfl
          rw [hnote, ← show L.isOpen = false from hturn] at hrest
          simpa using hrest
      | opened =>
          have hnote : (L.note .opened).isOpen = true := rfl
          rw [hnote] at hrest
          rw [show L.isOpen = false from hturn]
          simpa using hrest
      | shutdown =>
          have hnote : (L.note .shutdown).isOpen = false := rfl
          rw [hnote] at hrest
          rw [show L.isOpen = true from hturn]
          simp only [Bool.toNat_false, Nat.add_zero] at hrest
          simp [hrest]
          omega
      | _ =>
          rw [isOpen_note rfl] at hrest
          simpa using hrest

end Ledger

/-- What the ledger admits alternates. -/
theorem alternates_of_admits {trace : List Event}
    (h : Ledger.blank.Admits Ledger.InTurn trace) : Alternates trace := by
  have hopen (before after : List Event) (htrace : trace = before ++ after) :
      before.count .opened =
        before.count .shutdown + (Ledger.of before).isOpen.toNat := by
    rw [htrace, Ledger.admits_append] at h
    exact h.1.balance
  have hturn (before after : List Event) (e : Event) (htrace : trace = before ++ e :: after) :
      (Ledger.of before).InTurn e := by
    rw [htrace] at h
    exact h.at
  refine ⟨?_, ?_, ?_, ?_, ?_⟩
  · intro before host port settings after htrace
    rw [hopen _ _ htrace, show (Ledger.of before).isOpen = false from hturn _ _ _ htrace]
    rfl
  · intro before after htrace
    rw [hopen _ _ htrace, show (Ledger.of before).isOpen = false from hturn _ _ _ htrace]
    rfl
  · intro before after htrace
    rw [hopen _ _ htrace, show (Ledger.of before).isOpen = true from hturn _ _ _ htrace]
    rfl
  · intro before bytes after htrace
    rw [hopen _ _ htrace, show (Ledger.of before).isOpen = true from hturn _ _ _ htrace]
    rfl
  · intro before bytes after htrace
    rw [hopen _ _ htrace, show (Ledger.of before).isOpen = true from hturn _ _ _ htrace]
    rfl

namespace Client

/-! ## Orderly clients -/

/-- The connection that the trace tells of is the one that the channel holds, and nothing was done
out of turn. -/
structure Orderly (c : Client) : Prop where
  admits : Ledger.blank.Admits Ledger.InTurn c.world.trace
  isOpen : c.world.ledger.isOpen = c.channel.isConnected
  settled : c.channel ≠ .connecting
  held : Held c

section

variable {c c' : Client}

theorem ne_connecting_of_isConnected {channel : Channel} (h : channel.isConnected = true) :
    channel ≠ .connecting := by
  rintro rfl
  cases h

/-- After more that is in turn. -/
theorem Orderly.extend {new : List Event} (h : Orderly c)
    (htrace : c'.world.trace = c.world.trace ++ new)
    (hadmits : c.world.ledger.Admits Ledger.InTurn new)
    (hopen : (c.world.ledger.notes new).isOpen = c'.channel.isConnected)
    (hsettled : c'.channel ≠ .connecting) (hheld : Held c') : Orderly c' where
  admits := by
    rw [htrace]
    exact Ledger.admits_append.2 ⟨h.admits, hadmits⟩
  isOpen := by rw [World.ledger_of_trace htrace, hopen]
  settled := hsettled
  held := hheld

/-- After something that has nothing to do with the connection. -/
theorem Orderly.aside (h : Orderly c) (hchannel : c'.channel = c.channel)
    (hhandle : c.handle.isSome = true → c'.handle.isSome = true)
    (hgrows : c.world.Grows Event.isOffWire c'.world) : Orderly c' := by
  obtain ⟨new, htrace, hall⟩ := hgrows
  have huse : new.all Event.isUse = true :=
    Event.all_mono hall (Event.isApart_mono rfl)
  refine h.extend htrace (Ledger.admits_of_all hall Ledger.inTurn_of_isOffWire) ?_ ?_ ?_
  · rw [Ledger.isOpen_notes huse, h.isOpen, hchannel]
  · rw [hchannel]
    exact h.settled
  · intro hopen
    rw [hchannel] at hopen
    exact hhandle (h.held hopen)

/-- After the open connection was used. -/
theorem Orderly.use {new : List Event} (h : Orderly c) (hopen : c.channel.isConnected = true)
    (hopen' : c'.channel.isConnected = true) (hhandle : c'.handle = c.handle)
    (htrace : c'.world.trace = c.world.trace ++ new) (hall : new.all Event.isUse = true) :
    Orderly c' := by
  have hledger : c.world.ledger.isOpen = true := h.isOpen.trans hopen
  refine h.extend htrace (Ledger.admits_use hall hledger) ?_
    (ne_connecting_of_isConnected hopen') ?_
  · rw [Ledger.isOpen_notes hall, hledger, hopen']
  · rw [Held, hhandle]
    exact fun _ => h.held hopen

theorem Orderly.hangUp (h : Orderly c) : Orderly c.hangUp := by
  refine h.extend c.hangUp_trace ?_ ?_ ?_ (closed_hangUp c).held
  · split
    · rename_i hopen
      exact ⟨h.isOpen.trans hopen, trivial⟩
    · trivial
  · rw [hangUp_channel]
    split
    · rfl
    · rename_i hclosed
      exact h.isOpen.trans (Bool.not_eq_true _ ▸ hclosed)
  · rw [hangUp_channel]
    nofun

theorem Orderly.close (h : Orderly c) : Orderly c.close where
  admits := h.hangUp.admits
  isOpen := h.hangUp.isOpen
  settled := h.hangUp.settled
  held := (show Closed c.close from closed_hangUp c).held

theorem Orderly.takeHandle (h : Orderly c) (hostName : String) (port : Nat) :
    Orderly (c.takeHandle hostName port) := by
  refine h.aside ?_ ?_ (grows_takeHandle rfl c)
  · rw [Client.takeHandle]
    split <;> rfl
  · rw [Client.takeHandle]
    split
    · exact id
    · exact fun _ => rfl

/-- A dial shuts down what is open before it, and only if it is answered a connection is open after
it. -/
theorem Orderly.dial (h : Orderly c) (a : Address) : Orderly (finalState (c.dial a.1 a.2)) := by
  have hup := h.hangUp
  have hclosed : c.hangUp.world.ledger.isOpen = false := hup.isOpen.trans (closed_hangUp c)
  have hheld := dial_held a c
  obtain ⟨cancels, htrace⟩ := c.hangUp.world.connect_trace a.1 a.2 c.options.transportSettings
  have hcue (L : Ledger) : L.notes (Event.ofCue cancels) = L := Ledger.notes_ofCue cancels
  have hadmits (L : Ledger) : L.Admits Ledger.InTurn (Event.ofCue cancels) :=
    Ledger.admits_of_all (Event.all_ofCue rfl cancels) Ledger.inTurn_of_isOffWire
  rw [dial_eq] at hheld ⊢
  rcases hr : c.hangUp.world.connect a.1 a.2 c.options.transportSettings with ⟨e | transport, w⟩ <;>
    rw [hr] at htrace hheld
  · refine hup.extend htrace ⟨hclosed, ?_⟩ ?_ nofun hheld.held
    · exact Ledger.admits_append.2 ⟨hadmits _, trivial⟩
    · rw [Ledger.notes_cons, Ledger.notes_append, hcue]
      rfl
  · have hopen : (c.hangUp.world.ledger.notes (.dial a.1 a.2 c.options.transportSettings ::
        (Event.ofCue cancels ++ Event.ofAnswer (.ok transport)))).isOpen = true := by
      rw [Ledger.notes_cons, Ledger.notes_append, hcue]
      rfl
    have hadmitted : c.hangUp.world.ledger.Admits Ledger.InTurn
        (.dial a.1 a.2 c.options.transportSettings ::
          (Event.ofCue cancels ++ Event.ofAnswer (.ok transport))) := by
      refine ⟨hclosed, Ledger.admits_append.2 ⟨hadmits _, ?_⟩⟩
      rw [hcue]
      exact ⟨rfl, trivial⟩
    let answered : Client :=
      { c with channel := .connected (endpointLabel a.1 a.2) transport, world := w }
    have hconnected : (answered.takeHandle a.1 a.2).channel.isConnected = true := by
      rw [Client.takeHandle]
      split <;> rfl
    obtain ⟨more, hmore, hall⟩ : answered.world.Grows Event.isOffWire
      (answered.takeHandle a.1 a.2).world := grows_takeHandle rfl answered
    have huse : more.all Event.isUse = true :=
      Event.all_mono hall (Event.isApart_mono rfl)
    refine hup.extend (hmore.trans (by rw [show answered.world.trace = _ from htrace,
      List.append_assoc])) ?_ ?_ (ne_connecting_of_isConnected hconnected) hheld
    · exact Ledger.admits_append.2
        ⟨hadmitted, Ledger.admits_of_all hall Ledger.inTurn_of_isOffWire⟩
    · rw [Ledger.notes_append, Ledger.isOpen_notes huse, hopen]
      exact hconnected.symm

theorem searching_orderly : Searching Orderly where
  dialPreferred := fun c h => h.dial c.preferred
  dialUntried := fun _ e _ h => h.dial e.address
  load := fun _ h => h.aside rfl id (Directory.grows_ensureLoaded rfl ..)
  flag := fun _ _ _ _ h => h.aside rfl id (.refl _)

/-- An orderly client with an open channel. -/
def Engaged (c : Client) : Prop := Orderly c ∧ c.channel.isConnected = true

theorem ensures_ensureConnected_engaged (useRedirect : Bool) :
    Ensures Orderly (ensureConnected useRedirect) (fun _ => Engaged) Orderly := by
  intro c h
  have horderly := searching_orderly.ensureConnected useRedirect h
  cases hr : ensureConnected useRedirect c with
  | ok a c' =>
      rw [hr] at horderly
      exact ⟨horderly, isConnected_of_ensureConnected hr⟩
  | error e c' =>
      rw [hr] at horderly
      exact horderly

theorem Orderly.followRedirect (h : Orderly c) (uri : String) (targets : RedirectTargets) :
    Orderly (followRedirect uri targets c) := by
  have hremember : Orderly { c with
      directory := (c.directory.rememberRedirect targets (c.world.emit (.follow uri targets))).2.1
      world := (c.directory.rememberRedirect targets (c.world.emit (.follow uri targets))).2.2 } :=
    h.aside rfl id ((World.grows_emit rfl).trans
      (Directory.grows_rememberRedirect rfl (fun _ => rfl) ..))
  exact hremember.hangUp.takeHandle _ _

theorem Orderly.setAuthenticated (h : Orderly c) (authenticated : Bool) :
    Orderly (c.setAuthenticated authenticated) := by
  refine h.aside ?_ ?_ (grows_setAuthenticated rfl c)
  · rw [Client.setAuthenticated]
    split <;> rfl
  · rw [Client.setAuthenticated]
    split
    · exact id
    · exact fun _ => rfl

/-! ## Exchanges -/

/-- An exchange uses the open connection and shuts it down. -/
theorem Engaged.transact (h : Engaged c) (uri : String) (body : Bytes) :
    Orderly (finalState (transact uri body c)) := by
  obtain ⟨horderly, hopen⟩ := h
  obtain ⟨handle, hh⟩ := Option.isSome_iff_exists.1 (horderly.held hopen)
  obtain ⟨frame, sent, heard, block, world, -, ha, hfinal, htrace⟩ :=
    transact_spec uri body hopen hh
  have hsent : sent.all Event.isUse = true :=
    Event.all_mono ha.sent_all (Event.isApart_of_isAmong rfl)
  have hheard : heard.all Event.isUse = true :=
    Event.all_mono ha.heard_all (Event.isApart_of_isAmong rfl)
  have huse : (Event.request uri handle frame :: (sent ++ heard)).all Event.isUse = true := by
    rw [List.all_cons, List.all_append, hsent, hheard]
    rfl
  have hrest : ((block.map Event.learn).toList ++
      [Event.ofResult uri (outcome (Client.transact uri body c))]).all Event.isOffWire = true := by
    cases block <;> cases outcome (Client.transact uri body c) <;> rfl
  -- The client once everything is heard, before it hangs up.
  let used : Client := { c with world := { c.world with
    trace := c.world.trace ++ (.request uri handle frame :: (sent ++ heard)) } }
  have hused : Orderly used := horderly.use hopen hopen rfl rfl huse
  have hup : used.hangUp.world.trace = used.world.trace ++ [.shutdown] := by
    rw [hangUp_eq (c := used) hopen]
    rfl
  rw [hfinal]
  refine hused.hangUp.aside used.hangUp_channel.symm (fun _ => rfl) ⟨_, ?_, hrest⟩
  rw [htrace, hup]
  simp [used]

theorem ensures_exchange_orderly (uri : String) (body : Bytes) (useRedirect : Bool) :
    Keeps Orderly (exchange uri body useRedirect) :=
  (ensures_ensureConnected_engaged useRedirect).bind fun _ c h => by
    have horderly := h.transact uri body
    cases hr : Client.transact uri body c <;> rw [hr] at horderly <;> exact horderly

theorem exchanging_orderly (allowRedirect : Bool) :
    Exchanging allowRedirect Orderly fun _ _ => Orderly where
  exchange := fun uri body => ensures_exchange_orderly uri body allowRedirect
  kept := fun _ _ _ h => h
  followRedirect := fun _ uri targets _ h => h.followRedirect uri targets
  accept := fun _ _ _ h => h.setAuthenticated true

/-- A call leaves the channel closed, however it ends. -/
theorem closed_request (uri : String) (payload : Json) (allowRedirect : Bool) (hc : Held c) :
    Closed (finalState (request uri payload allowRedirect c)) := by
  have hlogin : ∀ x, (if uri = loginUri then none else some (Client.login allowRedirect)) = some x →
      Ensures Closed x (fun _ => Closed) Closed := by
    intro x hx
    split at hx
    · cases hx
    · cases hx
      intro c hclosed
      have hlogin : Closed (finalState (Client.login allowRedirect c)) :=
        closed_login hclosed.held (.inr hclosed)
      cases hr : Client.login allowRedirect c <;> rw [hr] at hlogin <;> exact hlogin
  have hconverse (logins : Nat) := ensures_converse_closed uri (payloadBytes payload)
    allowRedirect hlogin 1 logins c hc
  have hrequest := hconverse (if c.options.credentials.isSome then 1 else 0)
  simp only [request, Bind.bind, EStateM.bind, get_apply]
  cases hr : converse uri (payloadBytes payload) allowRedirect
    (if uri = loginUri then none else some (Client.login allowRedirect)) 1
    (if c.options.credentials.isSome then 1 else 0) c <;> rw [hr] at hrequest <;> exact hrequest

theorem closed_call (uri : String) (payload : Json) (allowRedirect : Bool) (hc : Held c) :
    Closed (perform (.call uri payload allowRedirect) c) := by
  have hrequest := closed_request uri payload allowRedirect hc
  simp only [perform, call, recording]
  cases hr : request uri payload allowRedirect c <;> rw [hr] at hrequest <;> exact hrequest

theorem Closed.disconnected (h : Closed c) (hsettled : c.channel ≠ .connecting) :
    c.channel = .disconnected := by
  cases hc : c.channel with
  | disconnected => rfl
  | connecting => exact absurd hc hsettled
  | connected endpoint t =>
      rw [Closed, hc] at h
      cases h

/-! ## Subscriptions -/

theorem ensures_frame_engaged (uri : String) (body : Bytes) :
    Ensures Engaged (frame uri body) (fun _ => Engaged) Orderly := by
  rintro c ⟨h, hopen⟩
  simp only [frame]
  cases hh : c.handle with
  | none => exact h
  | some handle => exact ⟨h.aside rfl id (World.grows_emit rfl), hopen⟩

theorem ensures_send_engaged (frame : RequestFrame) :
    Ensures Engaged (send frame) (fun _ => Engaged) Orderly := by
  rintro c ⟨h, hopen⟩
  obtain ⟨sent, channel, world, hsent, -, htrace, hopen', hcases⟩ := send_connected frame hopen
  have huse : sent.all Event.isUse = true :=
    Event.all_mono hsent (Event.isApart_of_isAmong rfl)
  have hwritten : Orderly { c with channel, world } := h.use hopen hopen' rfl htrace huse
  rcases hcases with ⟨hsend, -⟩ | ⟨e, hsend⟩
  · rw [hsend]
    exact ⟨hwritten, hopen'⟩
  · rw [hsend]
    have hclosed := hwritten.hangUp
    rwa [hangUp_eq hopen'] at hclosed

theorem Engaged.read (h : Engaged c) :
    Engaged (c.withLink (finalState (Link.read readChunk c.link))) := by
  rcases c with ⟨options, channel, directory, handle, lastError, delivered, world⟩
  cases channel with
  | connected endpoint t =>
      obtain ⟨t', w', heard, hfinal, htrace, hall, -⟩ :=
        Link.read_connected readChunk endpoint t world
      have huse : heard.all Event.isUse = true :=
        Event.all_mono hall (Event.isApart_of_isAmong rfl)
      simp only [link, hfinal]
      exact ⟨h.1.use h.2 rfl rfl htrace huse, rfl⟩
  | _ => cases h.2

/-- What was read is taken in: the header block by the handle, and the records by the subscriber. -/
theorem Engaged.drain (h : Engaged c) (subscriber : Subscriber) {handle : Handle}
    {block : Option Bytes} {session : Session} {records : List (Except RpcError Record)}
    {outcome : Option (Except RpcError StreamOutcome)}
    (hd : handOverAll subscriber records (c.learn handle block session) = (outcome, c')) :
    Engaged c' := by
  obtain ⟨world, hlearn, htrace⟩ := c.learn_eq handle block session
  have hlearnt : Orderly (c.learn handle block session) := by
    rw [hlearn]
    refine h.1.aside rfl (fun _ => rfl) ⟨_, htrace, ?_⟩
    cases block <;> rfl
  have hchannel := handOverAll_channel subscriber records (c.learn handle block session)
  have hgrows := grows_handOverAll (p := Event.isOffWire) rfl (fun _ => rfl) subscriber records
    (c.learn handle block session)
  have hhandle := handOverAll_handle subscriber records (c.learn handle block session)
  rw [hd] at hchannel hgrows hhandle
  refine ⟨hlearnt.aside hchannel (fun hh => hhandle ▸ hh) hgrows, ?_⟩
  rw [show c'.channel = _ from hchannel, learn_channel]
  exact h.2

theorem Engaged.pump (h : Engaged c) (subscriber : Subscriber) (stream : RecordStream) :
    Orderly (finalState (pump subscriber stream c)) := by
  have hread {c : Client} {chunk : Bytes} {l : Link} (h : Engaged c)
      (hr : Link.read readChunk c.link = .ok chunk l) : Engaged (c.withLink l) := by
    have hread := h.read
    rwa [hr] at hread
  have hfail {c : Client} {e : TransportError} {l : Link} (h : Engaged c)
      (hr : Link.read readChunk c.link = .error e l) : Engaged (c.withLink l) := by
    have hread := h.read
    rwa [hr] at hread
  fun_induction Client.pump subscriber stream c with
  | case1 => exact h.1
  | case2 stream c _ e l hr _ ih => exact ih (hfail h hr)
  | case3 stream c _ e l hr => exact (hfail h hr).1
  | case4 stream c _ l hr => exact (hread h hr).1
  | case5 stream c _ chunk l hr => exact (hread h hr).1
  | case6 stream c _ chunk l hr _ handle _ fed drained c' c'' hd ih =>
      exact ih ((hread h hr).drain subscriber hd)
  | case7 stream c _ chunk l hr _ handle _ fed drained c' outcome c'' hd =>
      exact ((hread h hr).drain subscriber hd).1
  | case8 stream c _ chunk l hr _ handle _ fed drained c' e c'' hd =>
      exact ((hread h hr).drain subscriber hd).1

end

/-! ## All that has happened -/

theorem orderly_invariant (options : ClientOptions) : Invariant options Orderly where
  fresh := by
    intro world htrace
    have hblank : (fresh options world).world.trace = [] := htrace
    refine ⟨?_, ?_, nofun, nofun⟩
    · rw [hblank]
      trivial
    · rw [World.ledger, hblank]
      rfl
  elapse := fun c world htrace h => h.aside rfl id (.of_trace_eq htrace)
  aside := fun c lastError delivered h => h.aside rfl id (.refl _)
  close := fun c h => h.close
  ensureConnected := fun useRedirect => keeps_of_finalState fun c h =>
    searching_orderly.ensureConnected useRedirect h
  login := fun allowRedirect => (exchanging_orderly allowRedirect).login
  request := fun uri payload allowRedirect =>
    (exchanging_orderly allowRedirect).request uri payload
  runStream := fun request body subscriber => keeps_runStream
    (fun c h => h.aside rfl id (World.grows_emit rfl)) (exchanging_orderly true).login
    (ensures_ensureConnected_engaged true) (ensures_frame_engaged request.uri body)
    ensures_send_engaged (fun c h => h.pump subscriber .fresh) (fun c h => h.hangUp)
  followRedirect := fun uri targets c h => h.followRedirect uri targets
  logout := fun c h => h.setAuthenticated false
  pause := fun c h => h.aside rfl id (World.grows_pause rfl rfl c.world)
  refreshEndpoints := fun c h => h.aside rfl id (Directory.grows_ensureLoaded rfl ..)

/-- Whatever operations a client has been through, its connections were opened and shut down in turn
and used in between; one is open exactly if the channel is connected, which is never left half-way,
and none is open after a call or once the client is let go of. -/
theorem Reachable.alternates {options : ClientOptions} {c : Client} (h : Reachable options c) :
    Alternates c.world.trace ∧ c.channel ≠ .connecting ∧
      c.world.trace.count .opened =
        c.world.trace.count .shutdown + (if c.channel.isConnected then 1 else 0) ∧
      (∀ uri payload allowRedirect,
        (Client.perform (.call uri payload allowRedirect) c).channel = .disconnected) ∧
      Alternates c.hangUp.world.trace ∧
        c.hangUp.world.trace.count .opened = c.hangUp.world.trace.count .shutdown := by
  have horderly := (orderly_invariant options).reachable h
  have hup := horderly.hangUp
  have hbalance {c : Client} (h : Orderly c) : c.world.trace.count .opened =
      c.world.trace.count .shutdown + (if c.channel.isConnected then 1 else 0) := by
    have hbalance := h.admits.balance
    rw [show (Ledger.blank.notes c.world.trace).isOpen = _ from h.isOpen] at hbalance
    cases hopen : c.channel.isConnected <;> rw [hopen] at hbalance <;> exact hbalance
  refine ⟨alternates_of_admits horderly.admits, horderly.settled, hbalance horderly, ?_,
    alternates_of_admits hup.admits, ?_⟩
  · intro uri payload allowRedirect
    have hcalled := (orderly_invariant options).operation (.call uri payload allowRedirect) horderly
    exact (closed_call uri payload allowRedirect horderly.held).disconnected hcalled.settled
  · have hnone := hbalance hup
    rwa [hangUp_channel] at hnone

/-- A client that `a` redirects to `b`, and that `b` answers twice. -/
def redirected : Client :=
  facing [answering "1" redirection, answering "2" "\x7b\"requestStatus\":\"ok\"\x7d",
    ⟨.answered ⟨false, [], [], []⟩, false⟩]

/-- The client after a call, connected anew. -/
def revisiting : Client := perform (.connect true) (perform (.call "/" .null true) redirected)

/-- A call that follows a redirect opens two connections, the second one after the first is shut
down; connecting after the call opens a third one. -/
theorem alternates_of_redirected :
    (perform (.call "/" .null true) redirected).channel = .disconnected ∧
      revisiting.world.trace.filter (Event.isAmong [.opened, .shutdown]) =
        [.opened, .shutdown, .opened, .shutdown, .opened] ∧
      Alternates revisiting.world.trace ∧ revisiting.world.trace.count .opened =
        revisiting.world.trace.count .shutdown +
          (if revisiting.channel.isConnected then 1 else 0) := by
  have hredirected : Reachable redirected.options redirected := reachable_facing _
  have hrevisiting : Reachable redirected.options revisiting :=
    .perform _ (.perform _ hredirected)
  obtain ⟨-, -, -, hcalls, -⟩ := Reachable.alternates hredirected
  obtain ⟨halternates, -, hcount, -⟩ := Reachable.alternates hrevisiting
  exact ⟨hcalls "/" .null true, by decide +kernel, halternates, hcount⟩

end Client

end ClusterRpc
