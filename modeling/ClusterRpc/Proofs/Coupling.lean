import ClusterRpc.Proofs.Likeness
import ClusterRpc.Proofs.Onward
import ClusterRpc.Proofs.Pairing

/-!
# Two runs side by side

Two clients that are alike, but for what there is to read on some connections, do the same. Neither
the trace nor the flag counts.
-/

namespace ClusterRpc

/-! ## The directory -/

namespace Directory

/-- What a directory takes from the world is in the store. -/
theorem ensureLoaded_untouched (d : Directory) (w : World) :
    w.Untouched (d.ensureLoaded w).2 := by
  simp only [ensureLoaded, load, World.getState]
  split
  · exact .refl w
  · cases w.store.get Failover.key <;> exact w.untouched_emit _

theorem rememberRedirect_congr (d : Directory) (targets : RedirectTargets) {w w' : World}
    (h : w'.store = w.store) :
    (d.rememberRedirect targets w').2.1 = (d.rememberRedirect targets w).2.1 ∧
      (d.rememberRedirect targets w').2.2.store = (d.rememberRedirect targets w).2.2.store := by
  have hload : (d.ensureLoaded w').1 = (d.ensureLoaded w).1 := Client.ensureLoaded_of_store h
  have hstore : (d.ensureLoaded w').2.store = (d.ensureLoaded w).2.store := by
    rw [(d.ensureLoaded_untouched w').store, h, (d.ensureLoaded_untouched w).store]
  simp only [rememberRedirect, persist, World.getState, hload, hstore, true_and]
  cases (d.ensureLoaded w).2.store.get Failover.key with
  | error e => exact hstore
  | ok stored =>
      simp only [World.setState, World.emit, hstore]

theorem rememberRedirect_dials (d : Directory) (targets : RedirectTargets) (w : World) :
    (d.rememberRedirect targets w).2.2.dials = w.dials := by
  rw [← (d.ensureLoaded_untouched w).dials]
  simp only [rememberRedirect, persist, World.getState]
  cases (d.ensureLoaded w).2.store.get Failover.key with
  | error e => rfl
  | ok stored => rfl

end Directory

/-! ## Clients -/

namespace Client

/-- Two clients that are alike, but for what there is to read. -/
structure Coupled (R : Likeness) (c d : Client) : Prop where
  options : d.options = c.options
  directory : d.directory = c.directory
  handle : d.handle = c.handle
  delivered : d.delivered = c.delivered
  store : d.world.store = c.world.store
  dials : DialsLike R c.world.dials d.world.dials
  channel : c.channel.Like (R c.world.dials.length) d.channel

/-- Two ends that are the same, but for what there is to read. -/
def Alike {ε α : Type} (R : Likeness) (r r' : EStateM.Result ε Client α) : Prop :=
  outcome r' = outcome r ∧ Coupled R (finalState r) (finalState r')

section

variable {ε α : Type} {R : Likeness} {c d : Client} {w w' : World}
  {r r' : EStateM.Result ε Client α}

theorem Alike.ok {a : α} (h : Alike R r r') (hr : r = .ok a c) :
    ∃ d, r' = .ok a d ∧ Coupled R c d := Matched.ok h hr

theorem Alike.error {e : ε} (h : Alike R r r') (hr : r = .error e c) :
    ∃ d, r' = .error e d ∧ Coupled R c d := Matched.error h hr

/-- What follows two ends that are alike may go by how they end. -/
theorem Alike.bind {β : Type} {x : Action α} {f : α → Action β} (hx : Alike R (x c) (x d))
    (hf : ∀ a c' d', Coupled R c' d' → Alike R (f a c') (f a d')) :
    Alike R ((x >>= f) c) ((x >>= f) d) := Matched.bind hx hf

/-- Only the connections that are open or still to come count. -/
theorem Coupled.congr {R' : Likeness} (h : Coupled R c d)
    (hR : ∀ n < c.world.dials.length, R n = R' n)
    (hopen : c.channel.isConnected = true → R c.world.dials.length = R' c.world.dials.length) :
    Coupled R' c d :=
  { h with
    dials := h.dials.congr hR
    channel := h.channel.congr hopen }

theorem Coupled.onWorld (h : Coupled R c d) (hw : w.dials = c.world.dials)
    (hw' : w'.dials = d.world.dials) (hstore : w'.store = w.store) :
    Coupled R { c with world := w } { d with world := w' } where
  options := h.options
  directory := h.directory
  handle := h.handle
  delivered := h.delivered
  store := hstore
  dials := by rw [hw, hw']; exact h.dials
  channel := by rw [hw]; exact h.channel

theorem Coupled.untouched (h : Coupled R c d) (hw : c.world.Untouched w)
    (hw' : d.world.Untouched w') : Coupled R { c with world := w } { d with world := w' } :=
  h.onWorld hw.dials hw'.dials (by rw [hw.store, hw'.store, h.store])

theorem Coupled.withLink {l m : Link} (h : Coupled R c d) (hl : c.world.Untouched l.world)
    (hm : d.world.Untouched m.world)
    (hchannel : l.channel.Like (R c.world.dials.length) m.channel) :
    Coupled R (c.withLink l) (d.withLink m) := by
  have hworld := h.untouched hl hm
  refine { hworld with channel := ?_ }
  rw [show (c.withLink l).world.dials = _ from hl.dials]
  exact hchannel

theorem Coupled.note (h : Coupled R c d) (e e' : Event) : Coupled R (c.note e) (d.note e') :=
  h.untouched (World.untouched_emit ..) (World.untouched_emit ..)

theorem hangUp_disconnected (c : Client) :
    c.hangUp = { c with channel := .disconnected, world := c.hangUp.world } := by
  rcases c with ⟨options, channel, directory, handle, lastError, delivered, world⟩
  cases channel <;> rfl

theorem learn_untouched (c : Client) (handle : Handle) (block : Option Bytes) (session : Session) :
    ∃ world, c.learn handle block session =
        { c with handle := some { handle with session }, world } ∧ c.world.Untouched world := by
  cases block with
  | none => exact ⟨c.world, rfl, .refl _⟩
  | some block => exact ⟨c.world.emit (.learn block), rfl, World.untouched_emit ..⟩

theorem Coupled.hangUp (h : Coupled R c d) : Coupled R c.hangUp d.hangUp := by
  have hworld := h.untouched (World.passage_untouched.hangUp c) (World.passage_untouched.hangUp d)
  rw [c.hangUp_disconnected, d.hangUp_disconnected]
  exact { hworld with channel := .disconnected }

/-- Records may be handed over and the handle set before the connection is given up. -/
theorem Coupled.settle {c' d' : Client} {channel channel' : Channel} {handle : Option Handle}
    {records : List Record} (h : Coupled R c d) (hw : c.world.Untouched w)
    (hw' : d.world.Untouched w')
    (hc : c' = { c with channel, handle, delivered := c.delivered ++ records, world := w })
    (hd : d' = { d with
      channel := channel', handle, delivered := d.delivered ++ records, world := w' }) :
    Coupled R c'.hangUp d'.hangUp := by
  have hup := World.passage_untouched.hangUp c'
  have hup' := World.passage_untouched.hangUp d'
  rw [c'.hangUp_disconnected, d'.hangUp_disconnected]
  generalize c'.hangUp.world = v at *
  generalize d'.hangUp.world = v' at *
  subst hc hd
  exact { h.untouched (hw.trans hup) (hw'.trans hup') with
    channel := .disconnected
    handle := rfl
    delivered := congrArg (· ++ records) h.delivered }

theorem Coupled.takeHandle (h : Coupled R c d) (hostName : String) (port : Nat) :
    Coupled R (c.takeHandle hostName port) (d.takeHandle hostName port) := by
  rw [Client.takeHandle, Client.takeHandle, h.handle]
  split
  · exact h
  · exact { h.note (.adopt hostName port) (.adopt hostName port) with handle := rfl }

theorem Coupled.setAuthenticated (h : Coupled R c d) (authenticated : Bool) :
    Coupled R (c.setAuthenticated authenticated) (d.setAuthenticated authenticated) := by
  rw [Client.setAuthenticated, Client.setAuthenticated, h.handle]
  split
  · exact h
  · exact { h.note (.mark authenticated) (.mark authenticated) with handle := rfl }

theorem Coupled.learn (h : Coupled R c d) (handle : Handle) (block : Option Bytes)
    (session : Session) :
    Coupled R (c.learn handle block session) (d.learn handle block session) := by
  cases block with
  | none => exact { h with handle := rfl }
  | some block => exact { h.note (.learn block) (.learn block) with handle := rfl }

theorem Coupled.preferred (h : Coupled R c d) : d.preferred = c.preferred := by
  simp only [Client.preferred, h.handle, h.directory]

/-- The directory may change with what there is in the store. -/
theorem Coupled.load (h : Coupled R c d) :
    Coupled R
      { c with
        directory := (c.directory.ensureLoaded c.world).1
        world := (c.directory.ensureLoaded c.world).2 }
      { d with
        directory := (d.directory.ensureLoaded d.world).1
        world := (d.directory.ensureLoaded d.world).2 } := by
  have hworld := h.untouched (c.directory.ensureLoaded_untouched c.world)
    (d.directory.ensureLoaded_untouched d.world)
  refine { hworld with directory := ?_ }
  simp only [h.directory]
  exact ensureLoaded_of_store h.store

theorem Coupled.flag (h : Coupled R c d) (hostName : String) (port : Nat)
    (lastError lastError' : Option String) :
    Coupled R { c with lastError, directory := c.directory.flag hostName port }
      { d with lastError := lastError', directory := d.directory.flag hostName port } :=
  { h with directory := by simp only [h.directory] }

theorem Coupled.followRedirect (h : Coupled R c d) (uri : String) (targets : RedirectTargets) :
    Coupled R (followRedirect uri targets c) (followRedirect uri targets d) := by
  have hnote := h.note (.follow uri targets) (.follow uri targets)
  obtain ⟨hdirectory, hstore⟩ := c.directory.rememberRedirect_congr targets hnote.store
  have hdials := c.directory.rememberRedirect_dials targets (c.note (.follow uri targets)).world
  have hdials' := c.directory.rememberRedirect_dials targets (d.note (.follow uri targets)).world
  have hworld := hnote.onWorld hdials hdials' hstore
  simp only [Client.followRedirect]
  rw [show (d.note (.follow uri targets)).directory = c.directory from h.directory]
  refine Coupled.takeHandle (Coupled.hangUp ?_) _ _
  exact { hworld with directory := hdirectory }

theorem Coupled.pause (h : Coupled R c d) :
    Coupled R { c with world := c.world.pause } { d with world := d.world.pause } := by
  obtain ⟨hdials, hstore⟩ := c.world.pause_same
  obtain ⟨hdials', hstore'⟩ := d.world.pause_same
  exact h.onWorld hdials hdials' (by rw [hstore, hstore', h.store])

theorem Coupled.refreshEndpoints (h : Coupled R c d) :
    Coupled R c.refreshEndpoints d.refreshEndpoints := by
  have hload := h.load
  have hdirectory : (d.directory.ensureLoaded d.world).1 = (c.directory.ensureLoaded c.world).1 :=
    hload.directory
  refine { hload with directory := ?_ }
  simp only [Client.refreshEndpoints, Directory.nextUntried, hdirectory]
  rfl

/-! ### Connecting -/

theorem Coupled.dial (h : Coupled R c d) (a : Address) :
    Alike R (c.dial a.1 a.2) (d.dial a.1 a.2) := by
  have hup := h.hangUp
  have hsettings : d.options.transportSettings = c.options.transportSettings := by
    rw [h.options]
  obtain ⟨hdials, hstore⟩ := c.hangUp.world.connect_dials a c.options.transportSettings
  obtain ⟨hdials', hstore'⟩ := d.hangUp.world.connect_dials a c.options.transportSettings
  have hfirst := c.hangUp.world.connect_fst a c.options.transportSettings
  have hfirst' := d.hangUp.world.connect_fst a c.options.transportSettings
  rw [dial_eq, dial_eq, hsettings]
  rcases hr : c.hangUp.world.connect a.1 a.2 c.options.transportSettings with ⟨result, w⟩
  rcases hr' : d.hangUp.world.connect a.1 a.2 c.options.transportSettings with ⟨result', w'⟩
  rw [hr] at hdials hstore hfirst
  rw [hr'] at hdials' hstore' hfirst'
  have hnext {channel channel' : Channel} (hchannel : channel.Like (R w.dials.length) channel') :
      Coupled R { c with channel, world := w } { d with channel := channel', world := w' } :=
    { options := h.options
      directory := h.directory
      handle := h.handle
      delivered := h.delivered
      store := hstore'.trans (hup.store.trans hstore.symm)
      dials := by
        rw [show w.dials = _ from hdials, show w'.dials = _ from hdials']
        exact hup.dials.tail
      channel := hchannel }
  rcases DialsLike.answer hup.dials a with ⟨hsame, hfailed⟩ | ⟨t, u, ht, hu, hlike⟩
  · rw [show result = _ from hfirst, show result' = _ from hfirst', hsame]
    cases hanswer : c.hangUp.world.answer 0 a with
    | ok t => rw [hanswer] at hfailed; cases hfailed
    | error e => exact ⟨rfl, hnext .disconnected⟩
  · rw [show result = _ from hfirst, show result' = _ from hfirst', ht, hu]
    refine ⟨rfl, (hnext (.connected _ ?_)).takeHandle _ _⟩
    rw [show w.dials = _ from hdials]
    exact hlike

/-- Connecting never reads. -/
theorem pairing_coupled (R : Likeness) : Pairing (Coupled R) where
  directory := fun h => h.directory
  preferred := fun h => h.preferred
  isConnected := fun h => h.channel.isConnected
  dial := fun h hostName port => h.dial (hostName, port)
  load := fun h => h.load
  flag := fun h hostName port lastError => h.flag hostName port lastError lastError

theorem Coupled.ensureConnected (h : Coupled R c d) (useRedirect : Bool) :
    Alike R (ensureConnected useRedirect c) (ensureConnected useRedirect d) :=
  (pairing_coupled R).ensureConnected h useRedirect

end

/-! ### Actions -/

/-- Does the same to clients that are alike and leaves them alike, if there are `floor` dials left
after it. -/
structure Couples {α : Type} (R : Likeness) (floor : Nat) (x : Action α) : Prop where
  onward : ∀ c, Onward c (finalState (x c))
  alike : ∀ c d, Coupled R c d → floor ≤ (finalState (x c)).world.dials.length →
    Alike R (x c) (x d)

section

variable {α β : Type} {R : Likeness} {floor : Nat}

theorem Couples.bind {x : Action α} {f : α → Action β} (hx : Couples R floor x)
    (hf : ∀ a, Couples R floor (f a)) : Couples R floor (x >>= f) := by
  refine ⟨fun c => ?_, fun c d h hfloor => ?_⟩
  · have honward := hx.onward c
    simp only [Bind.bind, EStateM.bind]
    cases hr : x c with
    | ok a c' =>
        rw [hr] at honward
        exact honward.trans ((hf a).onward c')
    | error e c' =>
        rw [hr] at honward
        exact honward
  · have halike := hx.alike c d h
    simp only [Bind.bind, EStateM.bind] at hfloor ⊢
    cases hr : x c with
    | ok a c' =>
        rw [hr] at hfloor halike
        -- There are no fewer dials left before the rest is done.
        have hle := Nat.le_trans hfloor ((hf a).onward c').world.dials.length_le
        obtain ⟨d', hd', hcoupled⟩ := (halike hle).ok rfl
        rw [hd']
        exact (hf a).alike c' d' hcoupled hfloor
    | error e c' =>
        rw [hr] at hfloor halike
        obtain ⟨d', hd', hcoupled⟩ := (halike hfloor).error rfl
        rw [hd']
        exact ⟨rfl, hcoupled⟩

theorem Couples.pure (a : α) : Couples R floor (pure a : Action α) :=
  ⟨fun c => .refl c, fun _ _ h _ => ⟨rfl, h⟩⟩

theorem Couples.throw (e : RpcError) : Couples R floor (throw e : Action α) :=
  ⟨fun c => .refl c, fun _ _ h _ => ⟨rfl, h⟩⟩

theorem Couples.modify {f : Client → Client} (honward : ∀ c, Onward c (f c))
    (hcoupled : ∀ c d, Coupled R c d → Coupled R (f c) (f d)) :
    Couples R floor (modify f : Action PUnit) :=
  ⟨honward, fun c d h _ => ⟨rfl, hcoupled c d h⟩⟩

/-- The client may be looked at first, for what the two have in common. -/
theorem Couples.get_bind {f : Client → Action α} (hf : ∀ c, Couples R floor (f c))
    (hsame : ∀ c d, Coupled R c d → f d = f c) :
    Couples R floor (MonadState.get >>= f) := by
  refine ⟨fun c => (hf c).onward c, fun c d h hfloor => ?_⟩
  change Alike R (f c c) (f d d)
  rw [hsame c d h]
  exact (hf c).alike c d h hfloor

/-- The client may be changed in the end, depending on how the action ends. -/
theorem Couples.finish {x y : Action α} {f : Except RpcError α → Client → Client}
    (h : Couples R floor x)
    (hy : ∀ c, outcome (y c) = outcome (x c) ∧
      finalState (y c) = f (outcome (x c)) (finalState (x c)))
    (honward : ∀ r c, Onward c (f r c))
    (hcoupled : ∀ r c d, Coupled R c d → Coupled R (f r c) (f r d)) : Couples R floor y := by
  refine ⟨fun c => ?_, fun c d hcd hfloor => ?_⟩
  · rw [(hy c).2]
    exact (h.onward c).trans (honward _ _)
  · rw [(hy c).2] at hfloor
    obtain ⟨houtcome, hfinal⟩ := h.alike c d hcd
      (Nat.le_trans hfloor (honward _ _).world.dials.length_le)
    refine ⟨?_, ?_⟩
    · rw [(hy d).1, (hy c).1, houtcome]
    · rw [(hy d).2, (hy c).2, houtcome]
      exact hcoupled _ _ _ hfinal

theorem closing_spec (x : Action α) (c : Client) :
    outcome (closing x c) = outcome (x c) ∧
      finalState (closing x c) = (finalState (x c)).hangUp := by
  simp only [closing]
  cases x c <;> exact ⟨rfl, rfl⟩

theorem Couples.closing {x : Action α} (h : Couples R floor x) : Couples R floor (closing x) :=
  h.finish (f := fun _ => hangUp) (closing_spec x) (fun _ => onward_hangUp)
    fun _ _ _ hcd => hcd.hangUp

theorem Couples.noting {x : Action Reply} (h : Couples R floor x) (uri : String) :
    Couples R floor (noting uri x) := by
  refine h.finish (f := fun r c => c.note (.ofResult uri r)) (fun c => ?_)
    (fun _ _ => onward_note _ _) fun _ _ _ hcd => hcd.note _ _
  simp only [Client.noting]
  cases x c <;> exact ⟨rfl, rfl⟩

theorem couples_onLink {x : Link.Action α} (hadvances : Link.Advances x)
    (hx : ∀ n, floor ≤ n → Link.Couples (R n) x) : Couples R floor (onLink x) := by
  refine ⟨fun c => (keeps_onward_onLink hadvances).finalState (.refl c), ?_⟩
  intro c d h hfloor
  have huntouched (c : Client) := (hx floor (Nat.le_refl _)).untouched c.link
  have hdials : (finalState (onLink x c)).world.dials = c.world.dials := by
    have hl := (huntouched c).dials
    simp only [onLink]
    cases hr : x c.link <;> rw [hr] at hl <;> exact hl
  rw [hdials] at hfloor
  have hn := hx _ hfloor
  have houtcome := hn.outcome c.link d.link h.channel
  have hchannel := hn.channel c.link d.link h.channel
  have hc := huntouched c
  have hd := huntouched d
  simp only [onLink]
  rcases hr : x c.link with ⟨a, l⟩ | ⟨e, l⟩ <;> rcases hr' : x d.link with ⟨a', m⟩ | ⟨e', m⟩ <;>
    rw [hr, hr'] at houtcome hchannel <;> rw [hr] at hc <;> rw [hr'] at hd <;> cases houtcome
  · exact ⟨rfl, h.withLink hc hd hchannel⟩
  · exact ⟨rfl, h.withLink hc hd hchannel⟩

theorem couples_ensureConnected (useRedirect : Bool) :
    Couples R floor (ensureConnected useRedirect) :=
  ⟨fun c => (keeps_onward_ensureConnected useRedirect).finalState (.refl c),
    fun _ _ h _ => h.ensureConnected useRedirect⟩

theorem couples_frame (uri : String) (body : Bytes) : Couples R floor (frame uri body) := by
  refine ⟨fun c => (keeps_onward_frame uri body).finalState (.refl c), fun c d h _ => ?_⟩
  simp only [frame, h.handle, h.options]
  cases c.handle with
  | none => exact ⟨rfl, h⟩
  | some handle => exact ⟨rfl, h.note _ _⟩

theorem couples_send (frame : RequestFrame) : Couples R floor (send frame) := by
  have hwrite : Couples R floor
      (onLink (do Link.writeAll frame.head; Link.writeAll frame.body)) :=
    couples_onLink ((Link.advances_writeAll _).bind fun _ => Link.advances_writeAll _)
      fun n _ => (Link.couples_writeAll (R n) _).bind fun _ => Link.couples_writeAll (R n) _
  refine hwrite.finish (f := fun r c => if r.isOk then c else c.hangUp) (fun c => ?_)
    (fun r c => ?_) fun r c d hcd => ?_
  · simp only [send]
    cases onLink (do Link.writeAll frame.head; Link.writeAll frame.body) c <;> exact ⟨rfl, rfl⟩
  · split
    · exact .refl c
    · exact onward_hangUp c
  · split
    · exact hcd
    · exact hcd.hangUp

theorem couples_takeResponse (raw : Bytes) : Couples R floor (takeResponse raw) := by
  refine ⟨fun c => (keeps_onward_takeResponse raw).finalState (.refl c), fun c d h _ => ?_⟩
  simp only [takeResponse, h.handle]
  cases c.handle with
  | none => exact ⟨rfl, h⟩
  | some handle =>
      dsimp only
      split
      · exact ⟨rfl, h.learn ..⟩
      · exact ⟨rfl, h.learn ..⟩

/-- Makes a request and writes it. -/
def writeRequest (uri : String) (body : Bytes) : Action Unit := do send (← frame uri body)

theorem couples_writeRequest (uri : String) (body : Bytes) :
    Couples R floor (writeRequest uri body) :=
  (couples_frame uri body).bind couples_send

/-! ### Calls

A call reads, so its connections have to be the same. -/

section

variable (hsame : ∀ n, floor ≤ n → R n = .same)
include hsame

theorem couples_exchange (uri : String) (body : Bytes) (useRedirect : Bool) :
    Couples R floor (exchange uri body useRedirect) := by
  have hreceive : Couples R floor (onLink (Link.receive .empty)) :=
    couples_onLink (Link.advances_receive .empty) fun n hn => by
      rw [hsame n hn]
      exact Link.couples_receive .empty
  exact (couples_ensureConnected useRedirect).bind fun _ =>
    (couples_frame uri body).bind fun frame =>
      Couples.noting ((couples_send frame).bind fun _ =>
        hreceive.closing.bind couples_takeResponse) uri

theorem couples_converse (uri : String) (body : Bytes) (allowRedirect : Bool)
    {login : Option (Action Unit)} (hl : ∀ x, login = some x → Couples R floor x)
    (hops logins : Nat) :
    Couples R floor (converse uri body allowRedirect login hops logins) := by
  fun_induction converse uri body allowRedirect login hops logins with
  | case1 hops logins ih ih' =>
      refine (couples_exchange hsame uri body allowRedirect).bind fun reply => ?_
      split
      · split
        · exact .throw _
        · split
          · exact .throw _
          · exact (Couples.modify (onward_followRedirect uri _) fun c d h =>
              h.followRedirect uri _).bind fun _ => ih
      · split
        · split
          · exact .throw _
          · exact (hl _ rfl).bind fun _ => ih'
        · exact .pure _

theorem couples_login (allowRedirect : Bool) : Couples R floor (login allowRedirect) := by
  refine Couples.get_bind (fun c => ?_) fun c d h => by rw [h.options]
  split
  · exact .throw _
  · refine (couples_converse hsame _ _ _ (by simp) 1 0).bind fun reply => ?_
    have hmark : Couples R floor (modify (·.setAuthenticated true) : Action PUnit) :=
      .modify (fun c => onward_setAuthenticated c true) fun c d h => h.setAuthenticated true
    split
    · exact (Couples.throw _).bind fun _ => hmark
    · exact hmark

end

end

/-! ### Requests that are written -/

section

variable {uri : String} {body : Bytes} {c c' : Client} {endpoint : String} {t : Transport}

/-- A request that is written leaves what there is to read. -/
theorem send_ok {frame : RequestFrame} (hc : c.channel = .connected endpoint t)
    (hsend : send frame c = .ok () c') : ∃ writes flushes world,
      c' = { c with channel := .connected endpoint { t with writes, flushes }, world } ∧
        c.world.Untouched world := by
  let write : Link.Action Unit := do Link.writeAll frame.head; Link.writeAll frame.body
  have huntouched := ((Link.couples_writeAll .same frame.head).bind fun _ =>
    Link.couples_writeAll .same frame.body).untouched c.link
  have hchannel : ∃ writes flushes, (finalState (write c.link)).channel =
      .connected endpoint { t with writes, flushes } := by
    obtain ⟨-, ⟨writes, flushes, hhead, -⟩, -⟩ := Link.writeAll_congr World.inStep_any
      c.world c.world frame.head endpoint t trivial t.reads
    have hlink : c.link = ⟨.connected endpoint t, c.world⟩ := by rw [link, hc]
    simp only [write, Bind.bind, EStateM.bind, hlink]
    rcases hr : Link.writeAll frame.head ⟨.connected endpoint t, c.world⟩ with
      ⟨⟨⟩, ⟨channel, w⟩⟩ | ⟨e, ⟨channel, w⟩⟩ <;> rw [hr] at hhead <;>
      obtain rfl : channel = _ := hhead
    · obtain ⟨-, ⟨writes', flushes', hbody, -⟩, -⟩ := Link.writeAll_congr World.inStep_any w w
        frame.body endpoint { t with writes, flushes } trivial t.reads
      exact ⟨writes', flushes', hbody⟩
    · exact ⟨writes, flushes, rfl⟩
  obtain ⟨writes, flushes, hchannel⟩ := hchannel
  simp only [send, onLink] at hsend
  rcases hr : write c.link with ⟨⟨⟩, l⟩ | ⟨e, l⟩ <;>
    rw [show (do Link.writeAll frame.head; Link.writeAll frame.body : Link.Action Unit) c.link = _
      from hr] at hsend huntouched <;> rw [hr] at hchannel <;> cases hsend
  refine ⟨writes, flushes, l.world, ?_, huntouched⟩
  rw [withLink, show l.channel = _ from hchannel]

/-- Where the connection takes everything, a request is written. -/
theorem writeRequest_of_unscripted {h : Handle} {reads : List (Cued ReadStep)} {tls : Bool}
    (uri : String) (body : Bytes) (hc : c.channel = .connected endpoint ⟨tls, reads, [], []⟩)
    (hh : c.handle = some h) : ∃ world, writeRequest uri body c = .ok () { c with world } ∧
      world.cancelled = c.world.cancelled := by
  have hwrite (w : World) (bytes : Bytes) : ∃ w', Link.writeAll bytes
      ⟨.connected endpoint ⟨tls, reads, [], []⟩, w⟩ =
        .ok () ⟨.connected endpoint ⟨tls, reads, [], []⟩, w'⟩ ∧ w'.cancelled = w.cancelled := by
    cases bytes <;> exact ⟨_, rfl, rfl⟩
  let frame :=
    RequestFrame.post (c.options.controller.requestUri uri) body h.hostName h.port h.session
  obtain ⟨w, hhead, hcancelled⟩ := hwrite (c.note (.request uri h frame)).world frame.head
  obtain ⟨w', hbody, hcancelled'⟩ := hwrite w frame.body
  have hlink : (c.note (.request uri h frame)).link =
      ⟨.connected endpoint ⟨tls, reads, [], []⟩, (c.note (.request uri h frame)).world⟩ := by
    rw [link, ← hc]
    rfl
  have hfinal : (c.note (.request uri h frame)).withLink
      ⟨.connected endpoint ⟨tls, reads, [], []⟩, w'⟩ = { c with world := w' } := by
    rw [withLink, ← hc]
    rfl
  refine ⟨w', ?_, hcancelled'.trans hcancelled⟩
  rw [← hfinal]
  simp only [writeRequest, Client.frame, Bind.bind, EStateM.bind, hh, send, onLink]
  simp only [show RequestFrame.post _ body h.hostName h.port h.session = frame from rfl, hlink,
    hhead, hbody]

theorem handle_of_writeRequest (hwrite : writeRequest uri body c = .ok () c') :
    ∃ h, c.handle = some h := by
  cases hh : c.handle with
  | none => simp [writeRequest, Client.frame, Bind.bind, EStateM.bind, hh] at hwrite
  | some h => exact ⟨h, rfl⟩

theorem writeRequest_eq_ok {h : Handle} (hwrite : writeRequest uri body c = .ok () c')
    (hh : c.handle = some h) : ∃ frame, Client.frame uri body c =
        .ok frame (c.note (.request uri h frame)) ∧
      send frame (c.note (.request uri h frame)) = .ok () c' := by
  simp only [writeRequest, Client.frame, Bind.bind, EStateM.bind, hh] at hwrite
  exact ⟨_, by simp only [Client.frame, hh], hwrite⟩

theorem writeRequest_ok (hc : c.channel = .connected endpoint t)
    (hwrite : writeRequest uri body c = .ok () c') : ∃ writes flushes world,
      c' = { c with channel := .connected endpoint { t with writes, flushes }, world } ∧
        c.world.Untouched world := by
  obtain ⟨h, hh⟩ := handle_of_writeRequest hwrite
  obtain ⟨frame, -, hsend⟩ := writeRequest_eq_ok hwrite hh
  obtain ⟨writes, flushes, world, rfl, huntouched⟩ :=
    send_ok (c := c.note (.request uri h frame)) hc hsend
  exact ⟨writes, flushes, world, rfl, (World.untouched_emit ..).trans huntouched⟩

end

end Client

end ClusterRpc
