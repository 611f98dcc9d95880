import ClusterRpc.Proofs.Connecting
import ClusterRpc.Proofs.Exchange
import ClusterRpc.Proofs.Failover
import ClusterRpc.Proofs.Passage

/-!
# What no action takes back

What has happened stays in the trace, a raised flag stays up, and a dial that was made is not met
again; the channel only opens with a dial. Apart from that only a subscription hands records over,
and the options never change.
-/

namespace ClusterRpc

/-! ## The world -/

/-- A world goes on as another one. -/
structure World.Onward (w w' : World) : Prop where
  trace : w.trace <+: w'.trace
  cancelled : w.cancelled = true → w'.cancelled = true
  dials : w'.dials <:+ w.dials

namespace World

variable {u v w : World}

theorem Onward.refl (w : World) : w.Onward w := ⟨List.prefix_rfl, id, List.suffix_rfl⟩

theorem Onward.trans (h : u.Onward v) (k : v.Onward w) : u.Onward w :=
  ⟨h.trace.trans k.trace, k.cancelled ∘ h.cancelled, k.dials.trans h.dials⟩

theorem onward_emit (w : World) (e : Event) : w.Onward (w.emit e) :=
  ⟨List.prefix_append .., id, List.suffix_rfl⟩

theorem onward_cue (w : World) (cancels : Bool) : w.Onward (w.cue cancels) := by
  cases cancels with
  | false => exact .refl w
  | true => exact ⟨List.prefix_append .., fun _ => rfl, List.suffix_rfl⟩

theorem passage_onward : Passage Onward where
  refl := .refl
  trans := .trans
  emit := fun w e _ => w.onward_emit e
  cancel := fun w => w.onward_cue true

theorem onward_connect (w : World) (host : String) (port : Nat) (settings : TransportSettings) :
    w.Onward (w.connect host port settings).2 := by
  have hdial := w.onward_emit (.dial host port settings)
  rw [connect]
  split
  · exact hdial
  · rename_i dial rest hdials
    have hnext : w.Onward { w.emit (.dial host port settings) with dials := rest } :=
      ⟨hdial.trace, id, hdials ▸ List.suffix_cons dial rest⟩
    have hcue := hnext.trans (onward_cue _ dial.cancels)
    split
    · exact hcue
    · exact hcue.trans (onward_emit ..)

/-- A dial that is answered is used up. -/
theorem dials_of_connect {w w' : World} {host : String} {port : Nat} {settings : TransportSettings}
    {t : Transport} (h : w.connect host port settings = (.ok t, w')) :
    w'.dials.length < w.dials.length := by
  have hdials := (w.connect_dials (host, port) settings).1
  have hanswer := w.connect_fst (host, port) settings
  rw [h] at hdials hanswer
  rw [show w'.dials = _ from hdials, List.length_tail]
  cases hw : w.dials with
  | nil =>
      rw [World.answer, hw] at hanswer
      cases hanswer
  | cons => exact Nat.lt_succ_self _

theorem onward_pause (w : World) : w.Onward w.pause := by
  rw [pause]
  split
  · exact w.onward_emit .pause
  · rename_i cancels rest _
    refine World.Onward.trans ?_ (onward_cue _ cancels)
    exact ⟨(w.onward_emit .pause).trace, id, List.suffix_rfl⟩

end World

/-! ## The channel -/

namespace Link

/-- A channel goes on as another one. It is not opened meanwhile. -/
structure Onward (l l' : Link) : Prop where
  world : l.world.Onward l'.world
  opened : l'.channel.isConnected = true → l.channel.isConnected = true

theorem Onward.refl (l : Link) : l.Onward l := ⟨.refl _, id⟩

theorem Onward.trans {l l' l'' : Link} (h : l.Onward l') (k : l'.Onward l'') : l.Onward l'' :=
  ⟨h.world.trans k.world, h.opened ∘ k.opened⟩

/-- Takes nothing back. -/
def Advances {α : Type} (x : Action α) : Prop := ∀ l : Link, l.Onward (finalState (x l))

theorem Advances.bind {α β : Type} {x : Action α} {f : α → Action β} (hx : Advances x)
    (hf : ∀ a, Advances (f a)) : Advances (x >>= f) := by
  intro l
  have h := hx l
  simp only [Bind.bind, EStateM.bind]
  cases hr : x l with
  | ok a l' =>
      rw [hr] at h
      exact h.trans (hf a l')
  | error e l' =>
      rw [hr] at h
      exact h

theorem advances_writeAll (bytes : Bytes) : Advances (writeAll bytes) := by
  intro l
  refine ⟨World.passage_onward.writeAll bytes l, ?_⟩
  rcases l with ⟨channel, world⟩
  cases channel with
  | connected endpoint t => exact fun _ => rfl
  | _ => exact id

theorem advances_read (room : Nat) : Advances (read room) := by
  intro l
  refine ⟨World.passage_onward.read room l, ?_⟩
  rcases l with ⟨channel, world⟩
  cases channel with
  | connected endpoint t => exact fun _ => rfl
  | _ => exact id

theorem advances_receive (buffer : ReceiveBuffer) : Advances (receive buffer) := by
  intro l
  fun_induction receive buffer l with
  | case1 => exact .refl _
  | case2 buffer l _ e l' h | case3 buffer l _ l' h =>
      have hread := advances_read readChunk l
      rwa [h] at hread
  | case4 buffer l _ chunk l' h _ ih =>
      have hread := advances_read readChunk l
      rw [h] at hread
      exact hread.trans ih

end Link

/-! ## The directory -/

namespace Directory

theorem onward_ensureLoaded (d : Directory) (w : World) : w.Onward (d.ensureLoaded w).2 := by
  simp only [ensureLoaded, load, World.getState]
  split
  · exact .refl w
  · cases w.store.get Failover.key <;> exact w.onward_emit _

theorem onward_rememberRedirect (d : Directory) (targets : RedirectTargets) (w : World) :
    w.Onward (d.rememberRedirect targets w).2.2 := by
  have hget := (d.onward_ensureLoaded w).trans (World.onward_emit _ (.get Failover.key))
  simp only [rememberRedirect, persist, World.getState]
  cases (d.ensureLoaded w).2.store.get Failover.key with
  | error e => exact hget
  | ok stored => exact hget.trans ⟨List.prefix_append .., id, List.suffix_rfl⟩

end Directory

/-! ## Clients -/

namespace Client

/-- The channel is only opened with a dial. -/
def OpensByDial (c c' : Client) : Prop :=
  c'.channel.isConnected = true →
    c.channel.isConnected = true ∨ c'.world.dials.length < c.world.dials.length

/-- A client goes on as another one, without handing a record over. -/
structure Onward (c c' : Client) : Prop where
  options : c'.options = c.options
  delivered : c'.delivered = c.delivered
  world : c.world.Onward c'.world
  opened : OpensByDial c c'

section

variable {c c' c'' : Client}

theorem OpensByDial.trans (h : OpensByDial c c') (k : OpensByDial c' c'')
    (hworld : c.world.Onward c'.world) (kworld : c'.world.Onward c''.world) :
    OpensByDial c c'' := by
  intro hopen
  rcases k hopen with hopen' | hlt
  · exact (h hopen').imp_right (Nat.lt_of_le_of_lt kworld.dials.length_le)
  · exact .inr (Nat.lt_of_lt_of_le hlt hworld.dials.length_le)

theorem Onward.refl (c : Client) : Onward c c := ⟨rfl, rfl, .refl _, .inl⟩

theorem Onward.trans (h : Onward c c') (k : Onward c' c'') : Onward c c'' where
  options := k.options.trans h.options
  delivered := k.delivered.trans h.delivered
  world := h.world.trans k.world
  opened := h.opened.trans k.opened h.world k.world

theorem onward_note (c : Client) (e : Event) : Onward c (c.note e) :=
  ⟨rfl, rfl, World.onward_emit .., .inl⟩

theorem onward_hangUp (c : Client) : Onward c c.hangUp := by
  rcases c with ⟨options, channel, directory, handle, lastError, delivered, world⟩
  cases channel with
  | connected endpoint t => exact ⟨rfl, rfl, world.onward_emit .shutdown, nofun⟩
  | _ => exact ⟨rfl, rfl, .refl _, nofun⟩

theorem onward_takeHandle (c : Client) (hostName : String) (port : Nat) :
    Onward c (c.takeHandle hostName port) := by
  rw [takeHandle]
  split
  · exact .refl c
  · exact ⟨rfl, rfl, World.onward_emit .., .inl⟩

theorem onward_learn (c : Client) (handle : Handle) (block : Option Bytes) (session : Session) :
    Onward c (c.learn handle block session) := by
  cases block with
  | none => exact ⟨rfl, rfl, .refl _, .inl⟩
  | some block => exact ⟨rfl, rfl, World.onward_emit .., .inl⟩

theorem onward_setAuthenticated (c : Client) (authenticated : Bool) :
    Onward c (c.setAuthenticated authenticated) := by
  rw [setAuthenticated]
  split
  · exact .refl c
  · exact ⟨rfl, rfl, World.onward_emit .., .inl⟩

theorem onward_dial (hostName : String) (port : Nat) (c : Client) :
    Onward c (finalState (c.dial hostName port)) := by
  have hconnect := c.hangUp.world.onward_connect hostName port c.options.transportSettings
  rw [dial_eq]
  rcases hr : c.hangUp.world.connect hostName port c.options.transportSettings with ⟨_ | _, w⟩ <;>
    rw [hr] at hconnect
  · exact ⟨rfl, rfl, c.onward_hangUp.world.trans hconnect, nofun⟩
  · have hlt := Nat.lt_of_lt_of_le (World.dials_of_connect hr)
      c.onward_hangUp.world.dials.length_le
    refine Onward.trans ?_ (onward_takeHandle ..)
    exact ⟨rfl, rfl, c.onward_hangUp.world.trans hconnect, fun _ => .inr hlt⟩

theorem onward_followRedirect (uri : String) (targets : RedirectTargets) (c : Client) :
    Onward c (followRedirect uri targets c) := by
  refine Onward.trans ?_ ((onward_hangUp _).trans (onward_takeHandle ..))
  exact ⟨rfl, rfl, (c.world.onward_emit _).trans (Directory.onward_rememberRedirect ..), .inl⟩

theorem onward_refreshEndpoints (c : Client) : Onward c c.refreshEndpoints :=
  ⟨rfl, rfl, Directory.onward_ensureLoaded .., .inl⟩

end

/-! ### Actions -/

section

variable {α : Type} {c₀ : Client}

theorem keeps_onward_of_onward {x : Action α} (h : ∀ c, Onward c (finalState (x c))) :
    Keeps (Onward c₀) x := keeps_of_finalState fun c hc => hc.trans (h c)

/-- An action goes on from where its first part ends. -/
theorem onward_bind {β : Type} {x : Action α} {f : α → Action β}
    (hf : ∀ a c₀, Keeps (Onward c₀) (f a)) (c : Client) :
    Onward (finalState (x c)) (finalState ((x >>= f) c)) := by
  simp only [Bind.bind, EStateM.bind]
  cases x c with
  | ok a c' => exact (hf a c').finalState (.refl c')
  | error e c' => exact .refl c'

theorem keeps_onward_onLink {x : Link.Action α} (hx : Link.Advances x) :
    Keeps (Onward c₀) (onLink x) := by
  refine keeps_onward_of_onward fun c => ?_
  have hlink := hx c.link
  simp only [onLink]
  cases hr : x c.link <;> rw [hr] at hlink <;>
    exact ⟨rfl, rfl, hlink.world, fun hopen => .inl (hlink.opened hopen)⟩

theorem searching_onward : Searching (Onward c₀) where
  dialPreferred := fun _ h => h.trans (onward_dial ..)
  dialUntried := fun _ _ _ h => h.trans (onward_dial ..)
  load := fun _ h => h.trans ⟨rfl, rfl, Directory.onward_ensureLoaded .., .inl⟩
  flag := fun _ _ _ _ h => h.trans ⟨rfl, rfl, .refl _, .inl⟩

theorem keeps_onward_ensureConnected (useRedirect : Bool) :
    Keeps (Onward c₀) (ensureConnected useRedirect) :=
  keeps_of_finalState fun _ => searching_onward.ensureConnected useRedirect

theorem keeps_onward_frame (uri : String) (body : Bytes) : Keeps (Onward c₀) (frame uri body) := by
  intro c h
  simp only [frame]
  cases c.handle with
  | none => exact h
  | some handle => exact h.trans (onward_note ..)

theorem keeps_onward_send (frame : RequestFrame) : Keeps (Onward c₀) (send frame) := by
  intro c h
  have hlink := keeps_onward_onLink ((Link.advances_writeAll frame.head).bind fun _ =>
    Link.advances_writeAll frame.body) c h
  simp only [send]
  cases hr : onLink (do Link.writeAll frame.head; Link.writeAll frame.body) c with
  | ok _ c' =>
      rw [hr] at hlink
      exact hlink
  | error e c' =>
      rw [hr] at hlink
      exact hlink.trans (onward_hangUp c')

theorem keeps_onward_takeResponse (raw : Bytes) : Keeps (Onward c₀) (takeResponse raw) := by
  intro c h
  simp only [takeResponse]
  cases c.handle with
  | none => exact h
  | some handle =>
      dsimp only
      split <;> rename_i heq <;> split at heq <;> cases heq <;> exact h.trans (onward_learn ..)

theorem keeps_onward_transact (uri : String) (body : Bytes) :
    Keeps (Onward c₀) (transact uri body) := by
  have hclose (c : Client) (h : Onward c₀ c) : Onward c₀ c.hangUp := h.trans (onward_hangUp c)
  refine (keeps_onward_frame uri body).bind fun frame => Keeps.noting ?_ uri fun c e h =>
    h.trans (onward_note c e)
  refine (keeps_onward_send frame).bind fun _ => ?_
  exact ((keeps_onward_onLink (Link.advances_receive .empty)).closing hclose).bind
    keeps_onward_takeResponse

theorem keeps_onward_exchange (uri : String) (body : Bytes) (useRedirect : Bool) :
    Keeps (Onward c₀) (exchange uri body useRedirect) :=
  (keeps_onward_ensureConnected useRedirect).bind fun _ => keeps_onward_transact uri body

theorem exchanging_onward (allowRedirect : Bool) :
    Exchanging allowRedirect (Onward c₀) fun _ _ => Onward c₀ where
  exchange := fun uri body => keeps_onward_exchange uri body allowRedirect
  kept := fun _ _ _ h => h
  followRedirect := fun _ uri targets c h => h.trans (onward_followRedirect uri targets c)
  accept := fun _ c _ h => h.trans (onward_setAuthenticated c true)

theorem onward_exchange (uri : String) (body : Bytes) (useRedirect : Bool) (c : Client) :
    Onward c (finalState (exchange uri body useRedirect c)) :=
  (keeps_onward_exchange uri body useRedirect).finalState (.refl c)

theorem keeps_onward_converse (uri : String) (body : Bytes) (allowRedirect : Bool)
    {login : Option (Action Unit)} (hl : ∀ x, login = some x → Keeps (Onward c₀) x)
    (hops logins : Nat) : Keeps (Onward c₀) (converse uri body allowRedirect login hops logins) :=
  ensures_converse (keeps_onward_exchange uri body allowRedirect) (fun _ _ h => h)
    (fun _ targets _ h => h.trans (onward_followRedirect uri targets _)) hl hops logins

theorem onward_login (allowRedirect : Bool) (c : Client) :
    Onward c (finalState (login allowRedirect c)) :=
  (exchanging_onward allowRedirect).login.finalState (.refl c)

end

/-! ### Streams -/

/-- A client goes on as another one, and may hand records over meanwhile. -/
structure Further (c c' : Client) : Prop where
  options : c'.options = c.options
  delivered : c.delivered <+: c'.delivered
  world : c.world.Onward c'.world
  opened : OpensByDial c c'

section

variable {c c' c'' : Client}

theorem Onward.further (h : Onward c c') : Further c c' :=
  ⟨h.options, h.delivered ▸ List.prefix_rfl, h.world, h.opened⟩

theorem Further.refl (c : Client) : Further c c := (Onward.refl c).further

theorem Further.trans (h : Further c c') (k : Further c' c'') : Further c c'' where
  options := k.options.trans h.options
  delivered := h.delivered.trans k.delivered
  world := h.world.trans k.world
  opened := h.opened.trans k.opened h.world k.world

theorem further_bind {α β : Type} {x : Action α} {f : α → Action β}
    (hf : ∀ a c, Further c (finalState (f a c))) (c : Client) :
    Further (finalState (x c)) (finalState ((x >>= f) c)) := by
  simp only [Bind.bind, EStateM.bind]
  cases x c with
  | ok a c' => exact hf a c'
  | error e c' => exact .refl c'

theorem further_handOver (subscriber : Subscriber) (record : Record) (c : Client) :
    Further c (c.handOver subscriber record) :=
  ⟨rfl, List.prefix_append .., (c.world.onward_emit _).trans (World.onward_cue ..), .inl⟩

theorem further_handOverAll (subscriber : Subscriber) (records : List (Except RpcError Record))
    (c : Client) : Further c (handOverAll subscriber records c).2 := by
  fun_induction handOverAll subscriber records c with
  | case1 c | case2 e _ c => exact .refl c
  | case3 record rest c | case4 record rest c => exact further_handOver ..
  | case5 record rest c c' _ _ ih => exact (further_handOver ..).trans ih

theorem further_pump (subscriber : Subscriber) (stream : RecordStream) (c : Client) :
    Further c (finalState (pump subscriber stream c)) := by
  have hread (c : Client) : Further c (c.withLink (finalState (Link.read readChunk c.link))) :=
    ⟨rfl, List.prefix_rfl, (Link.advances_read readChunk c.link).world,
      fun hopen => .inl ((Link.advances_read readChunk c.link).opened hopen)⟩
  have hhand {c c'' : Client} {chunk : Bytes} {l : Link} {handle : Handle} {block : Option Bytes}
      {session : Session} {records : List (Except RpcError Record)}
      {outcome : Option (Except RpcError StreamOutcome)}
      (hr : Link.read readChunk c.link = .ok chunk l)
      (hd : handOverAll subscriber records ((c.withLink l).learn handle block session) =
        (outcome, c'')) : Further c c'' := by
    have hread := hread c
    have hhanded := further_handOverAll subscriber records
      ((c.withLink l).learn handle block session)
    rw [hr] at hread
    rw [hd] at hhanded
    exact (hread.trans (onward_learn ..).further).trans hhanded
  fun_induction pump subscriber stream c with
  | case1 stream c => exact .refl c
  | case2 stream c _ e l hr _ ih =>
      have hread := hread c
      rw [hr] at hread
      exact hread.trans ih
  | case3 stream c _ e l hr | case4 stream c _ l hr | case5 stream c _ chunk l hr =>
      have hread := hread c
      rwa [hr] at hread
  | case6 stream c _ chunk l hr _ handle _ fed drained c' c'' hd ih =>
      exact (hhand hr hd).trans ih
  | case7 stream c _ chunk l hr _ handle _ fed drained c' outcome c'' hd =>
      exact hhand hr hd
  | case8 stream c _ chunk l hr _ handle _ fed drained c' e c'' hd =>
      exact hhand hr hd

end

end Client

end ClusterRpc
