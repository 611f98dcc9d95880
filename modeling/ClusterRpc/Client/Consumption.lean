import ClusterRpc.Client.Stream

/-! # What is left to read

No action of a client makes more to read than there was, and handing a record over takes some. -/

namespace ClusterRpc

/-- The state an action ends in, whether it succeeds or fails. -/
def finalState {ε σ α : Type} : EStateM.Result ε σ α → σ
  | .ok _ s | .error _ s => s

/-- How much may be read after a dial. -/
def Dial.pending : Dial → Nat
  | .answered transport => transport.pending
  | .refused _ => 0

/-- How much may be read from the connections still to come. -/
def World.readable (w : World) : Nat := w.dials.foldr (fun dial n => dial.what.pending + n) 0

namespace Link

/-- How much may be read from the open connection and those still to come. -/
def readable (l : Link) : Nat := l.world.readable + l.pending

/-- Never makes more to read. -/
def Consuming {α : Type} (x : Action α) : Prop := ∀ l, (finalState (x l)).readable ≤ l.readable

@[simp] theorem readable_emit (w : World) (e : Event) : (w.emit e).readable = w.readable := rfl

@[simp] theorem readable_cue (w : World) (b : Bool) : (w.cue b).readable = w.readable := by
  cases b <;> rfl

theorem Consuming.bind {α β : Type} {x : Action α} {f : α → Action β} (hx : Consuming x)
    (hf : ∀ a, Consuming (f a)) : Consuming (x >>= f) := by
  intro l
  have h := hx l
  simp only [Bind.bind, EStateM.bind]
  cases hr : x l with
  | ok a l' => rw [hr] at h; exact Nat.le_trans (hf a l') h
  | error e l' => rw [hr] at h; exact h

theorem consuming_close : Consuming close := by
  rintro ⟨channel, world⟩
  cases channel <;> simp [close, Channel.close, finalState, readable, pending]

theorem consuming_connect (host : String) (port : Nat) (settings : TransportSettings) :
    Consuming (connect host port settings) := by
  refine consuming_close.bind fun _ => ?_
  rintro ⟨channel, world⟩
  rcases world with ⟨dials, pauses, cancelled, store, trace⟩
  cases dials with
  | nil => exact Nat.zero_le _
  | cons dial rest =>
      rcases dial with ⟨what, cancels⟩
      let left := rest.foldr (fun dial n => dial.what.pending + n) 0
      have h : left + what.pending ≤
          what.pending + left + pending ⟨channel, ⟨⟨what, cancels⟩ :: rest, pauses, cancelled,
            store, trace⟩⟩ := by omega
      cases what <;> cases cancels <;> exact h

theorem readable_writeSteps (endpoint : String) (w : World) (steps : List (Cued WriteStep))
    (bytes : Bytes) : (writeSteps endpoint w steps bytes).2.2.readable = w.readable := by
  fun_induction writeSteps endpoint w steps bytes <;> simp_all +zetaDelta

theorem readable_flushStep (endpoint : String) (w : World) (steps : List (Cued FlushStep)) :
    (flushStep endpoint w steps).2.2.readable = w.readable := by
  fun_cases flushStep endpoint w steps <;> simp_all +zetaDelta

theorem consuming_writeAll (bytes : Bytes) : Consuming (writeAll bytes) := by
  rintro ⟨channel, world⟩
  cases channel with
  | connected endpoint t =>
      simp only [writeAll]
      have hw := readable_writeSteps endpoint world t.writes bytes
      rcases hr : writeSteps endpoint world t.writes bytes with ⟨outcome, writes, w⟩
      rw [hr] at hw
      cases outcome with
      | error e =>
          simp only [finalState, readable, pending, Transport.pending] at hw ⊢
          omega
      | ok =>
          have hf := readable_flushStep endpoint w t.flushes
          simp only
          rcases hr : flushStep endpoint w t.flushes with ⟨outcome, flushes, w'⟩
          rw [hr] at hf
          cases outcome <;> simp only [finalState, readable, pending, Transport.pending] at hw hf ⊢ <;>
            omega
  | _ => exact Nat.le_refl _

theorem readable_readRetrying (endpoint : String) (room retries : Nat) (t : Transport) (w : World) :
    (readRetrying endpoint room retries t w).2.2.readable = w.readable := by
  fun_induction readRetrying endpoint room retries t w <;> simp_all +zetaDelta

theorem consuming_read (room : Nat) : Consuming (read room) := by
  rintro ⟨channel, world⟩
  cases channel with
  | connected endpoint t =>
      simp only [read]
      have hp := pending_readRetrying endpoint room (retryLimit t.tls) t world
      have hw := readable_readRetrying endpoint room (retryLimit t.tls) t world
      rcases hr : readRetrying endpoint room (retryLimit t.tls) t world with ⟨outcome, t', w⟩
      rw [hr] at hp hw
      cases outcome <;> simp only [finalState, readable, pending] at hp hw ⊢ <;> omega
  | _ => exact Nat.le_refl _

/-- A read that delivers something leaves less to read. -/
theorem readable_lt_of_read {room : Nat} {l l' : Link} {bytes : Bytes}
    (h : read room l = .ok bytes l') (hne : bytes ≠ []) : l'.readable < l.readable := by
  have hp := pending_read_ok h hne
  rcases l with ⟨channel, world⟩
  cases channel with
  | connected endpoint t =>
      simp only [read] at h
      have hw := readable_readRetrying endpoint room (retryLimit t.tls) t world
      rcases hr : readRetrying endpoint room (retryLimit t.tls) t world with ⟨outcome, t', w⟩
      rw [hr] at h hw
      cases outcome with
      | error e => simp at h
      | ok bytes' =>
          simp only [EStateM.Result.ok.injEq] at h
          obtain ⟨-, rfl⟩ := h
          simp only [readable, pending] at hp hw ⊢
          omega
  | _ => simp [read] at h

theorem consuming_receive (buffer : ReceiveBuffer) : Consuming (receive buffer) := by
  intro l
  fun_induction receive buffer l with
  | case1 => exact Nat.le_refl _
  | case2 buffer l hc e l' h => have := consuming_read readChunk l; rwa [h] at this
  | case3 buffer l hc l' h => have := consuming_read readChunk l; rwa [h] at this
  | case4 buffer l hc chunk l' h hne ih =>
      have := consuming_read readChunk l
      rw [h] at this
      exact Nat.le_trans ih this

end Link

namespace Client

/-- How much may be read from the open connection and those still to come. -/
def readable (c : Client) : Nat := c.link.readable

/-- There is no more to read than before; and less, if a record was handed over. -/
structure Consumes (c c' : Client) : Prop where
  readable_le : c'.readable ≤ c.readable
  delivered : c'.delivered = c.delivered ∨ c'.readable < c.readable

theorem Consumes.refl (c : Client) : Consumes c c := ⟨Nat.le_refl _, .inl rfl⟩

theorem Consumes.trans {a b c : Client} (h : Consumes a b) (k : Consumes b c) : Consumes a c where
  readable_le := Nat.le_trans k.readable_le h.readable_le
  delivered := by
    rcases k.delivered with e | lt
    · rcases h.delivered with e' | lt
      · exact .inl (e.trans e')
      · exact .inr (Nat.lt_of_le_of_lt k.readable_le lt)
    · exact .inr (Nat.lt_of_lt_of_le lt h.readable_le)

/-- An action that takes what it hands over out of what is left to read. -/
def Consuming {α : Type} (x : Action α) : Prop := ∀ c, Consumes c (finalState (x c))

theorem consumes_of_eq {c c' : Client} (hc : c'.channel = c.channel)
    (hw : c'.world.readable = c.world.readable) (hd : c'.delivered = c.delivered) :
    Consumes c c' where
  readable_le := Nat.le_of_eq (by
    simp only [readable, link, Link.readable, Link.pending, hc, hw])
  delivered := .inl hd

theorem consuming_pure {α : Type} (a : α) : Consuming (pure a : Action α) := fun c => .refl c

theorem consuming_throw {α : Type} (e : RpcError) : Consuming (throw e : Action α) :=
  fun c => .refl c

theorem consuming_get : Consuming (get : Action Client) := fun c => .refl c

theorem consuming_modify {f : Client → Client} (h : ∀ c, Consumes c (f c)) :
    Consuming (modify f : Action PUnit) := h

theorem Consuming.bind {α β : Type} {x : Action α} {f : α → Action β} (hx : Consuming x)
    (hf : ∀ a, Consuming (f a)) : Consuming (x >>= f) := by
  intro c
  have h := hx c
  simp only [Bind.bind, EStateM.bind]
  cases hr : x c with
  | ok a c' => rw [hr] at h; exact h.trans (hf a c')
  | error e c' => rw [hr] at h; exact h

theorem consuming_onLink {α : Type} {x : Link.Action α} (h : Link.Consuming x) :
    Consuming (onLink x) := by
  intro c
  have hl := h c.link
  simp only [onLink]
  cases hr : x c.link <;> rw [hr] at hl <;> exact ⟨hl, .inl rfl⟩

theorem consumes_hangUp (c : Client) : Consumes c c.hangUp := by
  have := Link.consuming_close c.link
  simp only [Link.close, finalState, link] at this
  exact ⟨this, .inl rfl⟩

theorem Consuming.closing {α : Type} {x : Action α} (h : Consuming x) : Consuming (closing x) := by
  intro c
  have hx := h c
  simp only [Client.closing]
  cases hr : x c <;> rw [hr] at hx <;> exact hx.trans (consumes_hangUp _)

theorem consumes_note (c : Client) (e : Event) : Consumes c (c.note e) :=
  consumes_of_eq rfl (Link.readable_emit ..) rfl

theorem consumes_learn (c : Client) (handle : Handle) (block : Option Bytes) (session : Session) :
    Consumes c (c.learn handle block session) := by
  cases block with
  | none => exact consumes_of_eq rfl rfl rfl
  | some block => exact consumes_of_eq rfl (Link.readable_emit ..) rfl

theorem consumes_setAuthenticated (c : Client) (authenticated : Bool) :
    Consumes c (c.setAuthenticated authenticated) := by
  simp only [setAuthenticated]
  split
  · exact .refl c
  · exact consumes_of_eq rfl (Link.readable_emit ..) rfl

theorem Consuming.noting {x : Action Reply} (h : Consuming x) (uri : String) :
    Consuming (noting uri x) := by
  intro c
  have hx := h c
  simp only [Client.noting]
  cases hr : x c <;> rw [hr] at hx <;> exact hx.trans (consumes_note ..)

theorem consumes_takeHandle (c : Client) (hostName : String) (port : Nat) :
    Consumes c (c.takeHandle hostName port) := by
  simp only [takeHandle]
  split
  · exact .refl c
  · exact consumes_of_eq rfl (Link.readable_emit ..) rfl

/-! ## Connecting and calling -/

theorem consumes_dial (hostName : String) (port : Nat) (c : Client) :
    Consumes c (finalState (c.dial hostName port)) := by
  have hl := Link.consuming_connect hostName port c.options.transportSettings c.link
  simp only [dial]
  cases hr : Link.connect hostName port c.options.transportSettings c.link <;> rw [hr] at hl
  · exact Consumes.trans (b := c.withLink _) ⟨hl, .inl rfl⟩ (consumes_takeHandle ..)
  · exact ⟨hl, .inl rfl⟩

theorem consuming_walk (last : Option TransportError) : Consuming (walk last) := by
  intro c
  fun_induction walk last c with
  | case1 => exact .refl _
  | case2 last c e _ c' hd => have := consumes_dial e.hostName e.port c; rwa [hd] at this
  | case3 last c e _ failure tried hd _ ih =>
      have := consumes_dial e.hostName e.port c
      rw [hd] at this
      refine this.trans (Consumes.trans ?_ ih)
      exact consumes_of_eq rfl rfl rfl
  | case4 last c e _ failure tried hd =>
      have := consumes_dial e.hostName e.port c
      rwa [hd] at this

theorem readable_load (d : Directory) (w : World) : (d.load w).2.2.readable = w.readable := by
  simp only [Directory.load, World.getState]
  split
  · rfl
  · cases w.store.get Failover.key <;> rfl

theorem readable_persist (url : String) (targets : RedirectTargets) (w : World) :
    (Directory.persist url targets w).2.readable = w.readable := by
  simp only [Directory.persist, World.getState]
  cases w.store.get Failover.key with
  | error e => rfl
  | ok stored => rfl

theorem consuming_failover : Consuming failover := by
  intro c
  simp only [failover]
  split
  · refine Consumes.trans ?_ (consuming_walk _ _)
    exact consumes_of_eq rfl (readable_load ..) rfl
  · have hd := consumes_dial c.preferred.1 c.preferred.2 c
    cases hr : c.dial c.preferred.1 c.preferred.2 with
    | ok _ c' => rw [hr] at hd; exact hd
    | error failure c' =>
        rw [hr] at hd
        simp only
        split
        · refine hd.trans (Consumes.trans ?_ (consuming_walk _ _))
          exact consumes_of_eq rfl (readable_load ..) rfl
        · exact hd

theorem consuming_dialPreferred : Consuming dialPreferred := by
  intro c
  have hd := consumes_dial c.preferred.1 c.preferred.2 c
  simp only [dialPreferred]
  cases hr : c.dial c.preferred.1 c.preferred.2 <;> rw [hr] at hd <;> exact hd

theorem consuming_ensureConnected (useRedirect : Bool) :
    Consuming (ensureConnected useRedirect) := by
  refine consuming_get.bind fun c => ?_
  split
  · exact consuming_pure _
  · cases useRedirect
    · exact consuming_dialPreferred
    · exact consuming_failover

theorem consuming_frame (uri : String) (body : Bytes) : Consuming (frame uri body) := by
  intro c
  simp only [frame]
  split
  · exact .refl c
  · exact consumes_note ..

theorem consuming_send (frame : RequestFrame) : Consuming (send frame) := by
  intro c
  have h := consuming_onLink ((Link.consuming_writeAll frame.head).bind fun _ =>
    Link.consuming_writeAll frame.body) c
  simp only [send]
  cases hr : onLink (do Link.writeAll frame.head; Link.writeAll frame.body) c <;> rw [hr] at h
  · exact h
  · exact h.trans (consumes_hangUp _)

theorem consuming_takeResponse (raw : Bytes) : Consuming (takeResponse raw) := by
  intro c
  simp only [takeResponse]
  split
  · exact .refl c
  · split <;> exact consumes_learn ..

theorem consuming_transact (uri : String) (body : Bytes) : Consuming (transact uri body) :=
  (consuming_frame uri body).bind fun frame =>
    .noting ((consuming_send frame).bind fun _ =>
      (consuming_onLink (Link.consuming_receive .empty)).closing.bind fun raw =>
        consuming_takeResponse raw) uri

theorem consuming_exchange (uri : String) (body : Bytes) (useRedirect : Bool) :
    Consuming (exchange uri body useRedirect) :=
  (consuming_ensureConnected useRedirect).bind fun _ => consuming_transact uri body

theorem consumes_followRedirect (uri : String) (targets : RedirectTargets) (c : Client) :
    Consumes c (followRedirect uri targets c) := by
  simp only [followRedirect, Directory.rememberRedirect]
  refine Consumes.trans ?_ ((consumes_hangUp _).trans (consumes_takeHandle ..))
  refine (consumes_note c (.follow uri targets)).trans ?_
  exact consumes_of_eq rfl ((readable_persist ..).trans (readable_load ..)) rfl

theorem consuming_converse (uri : String) (body : Bytes) (allowRedirect : Bool)
    {login : Option (Action Unit)} (hl : ∀ x, login = some x → Consuming x) (hops logins : Nat) :
    Consuming (converse uri body allowRedirect login hops logins) := by
  fun_induction converse uri body allowRedirect login hops logins with
  | case1 hops logins ih ih' =>
      refine (consuming_exchange uri body allowRedirect).bind fun reply => ?_
      split
      · split
        · exact consuming_throw _
        · split
          · exact consuming_throw _
          · exact (consuming_modify (consumes_followRedirect _ _)).bind fun _ => ih
      · split
        · split
          · exact consuming_throw _
          · exact (hl _ rfl).bind fun _ => ih'
        · exact consuming_pure _

/-! ## Streaming -/

theorem handOverAll_readable (subscriber : Subscriber) (records : List (Except RpcError Record))
    (c : Client) : (handOverAll subscriber records c).2.readable = c.readable := by
  have h (record : Record) (c : Client) : (c.handOver subscriber record).readable = c.readable := by
    simp only [handOver, readable, link, Link.readable, Link.readable_cue, Link.readable_emit]
    rfl
  fun_induction handOverAll subscriber records c with
  | case1 | case2 => rfl
  | case3 | case4 => exact h ..
  | case5 record rest c c' _ _ ih => exact ih.trans (h ..)

theorem consuming_pump (subscriber : Subscriber) (stream : RecordStream) :
    Consuming (pump subscriber stream) := by
  intro c
  have hread : ∀ c : Client, (finalState (Link.read readChunk c.link)).readable ≤ c.readable :=
    fun c => Link.consuming_read readChunk c.link
  -- What is handed over after a read was paid for by that read.
  have hhand : ∀ {c : Client} {chunk : Bytes} {l : Link} {handle : Handle} {block : Option Bytes}
      {session : Session} {records : List (Except RpcError Record)}
      {outcome : Option (Except RpcError StreamOutcome)} {c'' : Client},
      Link.read readChunk c.link = .ok chunk l → chunk ≠ [] →
      handOverAll subscriber records ((c.withLink l).learn handle block session) = (outcome, c'') →
      Consumes c c'' := by
    intro c chunk l handle block session records outcome c'' h hne hd
    have he := handOverAll_readable subscriber records ((c.withLink l).learn handle block session)
    rw [hd] at he
    have hlt : l.readable < c.readable := Link.readable_lt_of_read h hne
    have hl := (consumes_learn (c.withLink l) handle block session).readable_le
    have : c''.readable < c.readable := by
      rw [he]
      exact Nat.lt_of_le_of_lt hl hlt
    exact ⟨Nat.le_of_lt this, .inr this⟩
  fun_induction pump subscriber stream c with
  | case1 => exact .refl _
  | case2 stream c _ e l h ht ih =>
      have := hread c
      rw [h] at this
      exact Consumes.trans (b := c.withLink l) ⟨this, .inl rfl⟩ ih
  | case3 stream c _ e l h =>
      have := hread c
      rw [h] at this
      exact ⟨this, .inl rfl⟩
  | case4 stream c _ l h =>
      have := hread c
      rw [h] at this
      exact ⟨this, .inl rfl⟩
  | case5 stream c _ chunk l h =>
      have := hread c
      rw [h] at this
      exact ⟨this, .inl rfl⟩
  | case6 stream c _ chunk l h hne handle _ fed drained c' c'' hd ih =>
      exact Consumes.trans (hhand h hne hd) ih
  | case7 stream c _ chunk l h hne handle _ fed drained c' outcome c'' hd
  | case8 stream c _ chunk l h hne handle _ fed drained c' e c'' hd =>
      exact hhand h hne hd

theorem consuming_login (allowRedirect : Bool) : Consuming (login allowRedirect) := by
  refine consuming_get.bind fun c => ?_
  split
  · exact consuming_throw _
  · refine (consuming_converse _ _ _ (by simp) 1 0).bind fun reply => ?_
    split
    · exact (consuming_throw _).bind fun _ =>
        consuming_modify fun c => consumes_setAuthenticated ..
    · exact consuming_modify fun c => consumes_setAuthenticated ..

theorem consuming_runStream (request : SubscriptionRequest) (body : Bytes)
    (subscriber : Subscriber) : Consuming (runStream request body subscriber) := by
  have rest : Consuming (do
      ensureConnected true
      send (← frame request.uri body)
      closing (pump subscriber .fresh)) :=
    (consuming_ensureConnected true).bind fun _ =>
      (consuming_frame request.uri body).bind fun frame =>
        (consuming_send frame).bind fun _ => (consuming_pump subscriber .fresh).closing
  refine Consuming.bind (consuming_modify fun c => ?_) fun _ => consuming_get.bind fun c => ?_
  · exact consumes_of_eq rfl rfl rfl
  · split
    · exact (consuming_login true).bind fun _ => rest
    · exact rest

end Client

end ClusterRpc
