import ClusterRpc.Proofs.Coupling
import ClusterRpc.Proofs.Exhaustion

/-!
# What is stored makes no difference

A client reads the failover record of its address once, and what it writes to the store it never
reads again, whether the writing succeeds or not. Two clients whose stores hold the same record at
the start are followed through the same operations.
-/

namespace ClusterRpc

/-- An attempt to write to the store. -/
def Event.isSet : Event → Bool := isAmong [.set]

namespace World

variable {loaded : Bool} {w w' : World}

/-- What has happened, except that something may have been written to the store. -/
def shown (w : World) : List Event := w.trace.filter (!·.isSet)

theorem shown_of_trace {new : List Event} (h : w'.trace = w.trace ++ new) :
    w'.shown = w.shown ++ new.filter (!·.isSet) := by
  rw [shown, h, List.filter_append]
  rfl

/-- Two worlds that differ at most in the store. The records that it holds are the same, unless they
are already loaded. -/
structure Beside (loaded : Bool) (w w' : World) : Prop where
  dials : w'.dials = w.dials
  pauses : w'.pauses = w.pauses
  cancelled : w'.cancelled = w.cancelled
  shown : w'.shown = w.shown
  stored : loaded = false → w'.store.get Failover.key = w.store.get Failover.key

theorem inStep_beside (loaded : Bool) : InStep (Beside loaded) := by
  have hemit {w w' : World} (e : Event) (h : Beside loaded w w') :
      Beside loaded (w.emit e) (w'.emit e) := by
    have hw : (w.emit e).shown = _ := shown_of_trace rfl
    have hw' : (w'.emit e).shown = _ := shown_of_trace rfl
    exact { h with shown := by rw [hw, hw', h.shown] }
  exact ⟨hemit, fun h => { hemit .cancel h with cancelled := rfl }⟩

theorem Beside.emit (h : w.Beside loaded w') (e : Event) : (w.emit e).Beside loaded (w'.emit e) :=
  (inStep_beside loaded).emit e h

theorem Beside.cue (h : w.Beside loaded w') (cancels : Bool) :
    (w.cue cancels).Beside loaded (w'.cue cancels) := (inStep_beside loaded).cue h cancels

theorem Beside.connect (h : w.Beside loaded w') (host : String) (port : Nat)
    (settings : TransportSettings) :
    (w'.connect host port settings).1 = (w.connect host port settings).1 ∧
      (w.connect host port settings).2.Beside loaded (w'.connect host port settings).2 := by
  have hdial := h.emit (.dial host port settings)
  simp only [World.connect, hdial.dials]
  cases (w.emit (.dial host port settings)).dials with
  | nil => exact ⟨rfl, hdial⟩
  | cons dial rest =>
      have hrest : Beside loaded { w.emit (.dial host port settings) with dials := rest }
          { w'.emit (.dial host port settings) with dials := rest } := { hdial with dials := rfl }
      have hcue := hrest.cue dial.cancels
      dsimp only
      cases dial.what with
      | refused failure => exact ⟨rfl, hcue⟩
      | answered transport => exact ⟨rfl, hcue.emit .opened⟩

theorem Beside.pause (h : w.Beside loaded w') : w.pause.Beside loaded w'.pause := by
  have hemit := h.emit .pause
  simp only [World.pause, hemit.pauses]
  cases (w.emit .pause).pauses with
  | nil => exact hemit
  | cons cancels rest =>
      have hrest : Beside loaded { w.emit .pause with pauses := rest }
          { w'.emit .pause with pauses := rest } := { hemit with pauses := rfl }
      exact hrest.cue cancels

end World

/-! ## The directory -/

namespace Directory

variable {w w' : World}

theorem ensureLoaded_beside (d : Directory) (h : w.Beside d.loaded w') :
    (d.ensureLoaded w').1 = (d.ensureLoaded w).1 ∧
      (d.ensureLoaded w).2.Beside true (d.ensureLoaded w').2 := by
  have hloaded {w w' : World} (h : w.Beside d.loaded w') : w.Beside true w' :=
    { h with stored := nofun }
  cases hd : d.loaded with
  | true =>
      simp only [ensureLoaded, load, hd, if_true]
      exact ⟨trivial, hloaded h⟩
  | false =>
      have hget := hloaded (h.emit (.get Failover.key))
      simp only [ensureLoaded, load, hd, Bool.false_eq_true, if_false, World.getState, h.stored hd]
      cases w.store.get Failover.key <;> exact ⟨rfl, hget⟩

/-- What writing a record does to the world. -/
theorem persist_world (url : String) (targets : RedirectTargets) (w : World) :
    ∃ store sets, (persist url targets w).2 =
        { w with store, trace := w.trace ++ .get Failover.key :: sets } ∧
      ∀ e ∈ sets, e.isSet = true := by
  simp only [persist, World.getState]
  cases w.store.get Failover.key with
  | error e => exact ⟨w.store, [], rfl, fun _ he => absurd he List.not_mem_nil⟩
  | ok stored =>
      let value : Json := .array (Failover.replace url (Failover.record url targets)
        ((stored.bind Json.array?).getD []))
      have hset : ∀ e ∈ [Event.set Failover.key value], e.isSet = true := by
        intro e he
        rw [List.mem_singleton.1 he]
        rfl
      have htrace : (w.emit (.get Failover.key)).trace ++ [.set Failover.key value] =
          w.trace ++ [.get Failover.key, .set Failover.key value] := List.append_assoc ..
      exact ⟨_, _, by rw [← htrace]; rfl, hset⟩

/-- Whatever becomes of the record, nobody is going to read it. -/
theorem persist_beside (url : String) (targets : RedirectTargets) (h : w.Beside true w') :
    (persist url targets w).2.Beside true (persist url targets w').2 := by
  have hshown (w : World) {store : Store} {sets : List Event} (hsets : ∀ e ∈ sets, e.isSet = true) :
      World.shown { w with store, trace := w.trace ++ .get Failover.key :: sets } =
        w.shown ++ [.get Failover.key] := by
    rw [World.shown_of_trace (w := w) rfl, List.filter_cons_of_pos rfl,
      List.filter_eq_nil_iff.2 fun e he => by simp [hsets e he]]
  obtain ⟨store, sets, hw, hsets⟩ := persist_world url targets w
  obtain ⟨store', sets', hw', hsets'⟩ := persist_world url targets w'
  rw [hw, hw']
  refine ⟨h.dials, h.pauses, h.cancelled, ?_, nofun⟩
  rw [hshown w hsets, hshown w' hsets', h.shown]

theorem rememberRedirect_beside (d : Directory) (targets : RedirectTargets)
    (h : w.Beside d.loaded w') :
    (d.rememberRedirect targets w').2.1 = (d.rememberRedirect targets w).2.1 ∧
      (d.rememberRedirect targets w).2.2.Beside true (d.rememberRedirect targets w').2.2 := by
  obtain ⟨hdirectory, hworld⟩ := d.ensureLoaded_beside h
  simp only [rememberRedirect, hdirectory]
  exact ⟨trivial, persist_beside _ targets hworld⟩

end Directory

/-! ## Clients -/

namespace Client

/-- Two clients that are the same but for their stores, which hold the same records as long as the
client is to load them. -/
structure Beside (c d : Client) : Prop where
  options : d.options = c.options
  channel : d.channel = c.channel
  directory : d.directory = c.directory
  handle : d.handle = c.handle
  lastError : d.lastError = c.lastError
  delivered : d.delivered = c.delivered
  world : c.world.Beside c.directory.loaded d.world

section

variable {c d : Client}

theorem Beside.note (h : Beside c d) (e : Event) : Beside (c.note e) (d.note e) :=
  { h with world := h.world.emit e }

theorem Beside.hangUp (h : Beside c d) : Beside c.hangUp d.hangUp := by
  have hworld : c.hangUp.world.Beside c.directory.loaded d.hangUp.world := by
    simp only [Client.hangUp, h.channel]
    cases c.channel with
    | connected endpoint t => exact h.world.emit .shutdown
    | _ => exact h.world
  rw [c.hangUp_disconnected, d.hangUp_disconnected]
  exact { h with channel := rfl, world := hworld }

theorem Beside.close (h : Beside c d) : Beside c.close d.close := { h.hangUp with handle := rfl }

theorem Beside.takeHandle (h : Beside c d) (hostName : String) (port : Nat) :
    Beside (c.takeHandle hostName port) (d.takeHandle hostName port) := by
  rw [Client.takeHandle, Client.takeHandle, h.handle]
  split
  · exact h
  · exact { h.note (.adopt hostName port) with handle := rfl }

theorem Beside.setAuthenticated (h : Beside c d) (authenticated : Bool) :
    Beside (c.setAuthenticated authenticated) (d.setAuthenticated authenticated) := by
  rw [Client.setAuthenticated, Client.setAuthenticated, h.handle]
  split
  · exact h
  · exact { h.note (.mark authenticated) with handle := rfl }

theorem Beside.learn (h : Beside c d) (handle : Handle) (block : Option Bytes)
    (session : Session) : Beside (c.learn handle block session) (d.learn handle block session) := by
  cases block with
  | none => exact { h with handle := rfl }
  | some block => exact { h.note (.learn block) with handle := rfl }

theorem Beside.load (h : Beside c d) : Beside
    { c with
      directory := (c.directory.ensureLoaded c.world).1
      world := (c.directory.ensureLoaded c.world).2 }
    { d with
      directory := (d.directory.ensureLoaded d.world).1
      world := (d.directory.ensureLoaded d.world).2 } := by
  obtain ⟨hdirectory, hworld⟩ := c.directory.ensureLoaded_beside h.world
  rw [← (c.directory.configured_ensureLoaded c.world).2.1] at hworld
  rw [h.directory]
  exact { h with directory := hdirectory, world := hworld }

theorem Beside.remember (h : Beside c d) (targets : RedirectTargets) : Beside
    { c with
      directory := (c.directory.rememberRedirect targets c.world).2.1
      world := (c.directory.rememberRedirect targets c.world).2.2 }
    { d with
      directory := (d.directory.rememberRedirect targets d.world).2.1
      world := (d.directory.rememberRedirect targets d.world).2.2 } := by
  obtain ⟨hdirectory, hworld⟩ := c.directory.rememberRedirect_beside targets h.world
  have hloaded : (c.directory.rememberRedirect targets c.world).2.1.loaded = true :=
    (c.directory.configured_ensureLoaded c.world).2.1
  rw [← hloaded] at hworld
  rw [h.directory]
  exact { h with directory := hdirectory, world := hworld }

theorem Beside.followRedirect (h : Beside c d) (uri : String) (targets : RedirectTargets) :
    Beside (followRedirect uri targets c) (followRedirect uri targets d) :=
  ((h.note (.follow uri targets)).remember targets).hangUp.takeHandle _ _

theorem Beside.refreshEndpoints (h : Beside c d) :
    Beside c.refreshEndpoints d.refreshEndpoints := by
  have hload := h.load
  have hdirectory : (d.directory.ensureLoaded d.world).1 = (c.directory.ensureLoaded c.world).1 :=
    hload.directory
  have hloaded : c.refreshEndpoints.directory.loaded =
      (c.directory.ensureLoaded c.world).1.loaded := by
    simp only [Client.refreshEndpoints, Directory.nextUntried]
    exact (apply_ite Directory.loaded ..).trans (ite_self _)
  refine { hload with directory := ?_, world := hloaded ▸ hload.world }
  simp only [Client.refreshEndpoints, Directory.nextUntried, hdirectory]
  rfl

theorem Beside.pause (h : Beside c d) :
    Beside { c with world := c.world.pause } { d with world := d.world.pause } :=
  { h with world := h.world.pause }

/-! ### Connecting -/

theorem Beside.dial (h : Beside c d) (hostName : String) (port : Nat) :
    Matched Beside (c.dial hostName port) (d.dial hostName port) := by
  obtain ⟨hresult, hworld⟩ :=
    h.hangUp.world.connect hostName port c.options.transportSettings
  have hsettings : d.options.transportSettings = c.options.transportSettings := by rw [h.options]
  rw [dial_eq, dial_eq, hsettings]
  rcases hr : c.hangUp.world.connect hostName port c.options.transportSettings with ⟨r, v⟩
  rcases hr' : d.hangUp.world.connect hostName port c.options.transportSettings with ⟨r', v'⟩
  rw [hr, hr'] at hresult hworld
  obtain rfl : r' = r := hresult
  have hnext (channel : Channel) :
      Beside { c with channel, world := v } { d with channel, world := v' } :=
    { h with channel := rfl, world := hworld }
  cases r' with
  | error e => exact ⟨rfl, hnext .disconnected⟩
  | ok transport => exact ⟨rfl, (hnext _).takeHandle hostName port⟩

theorem pairing_beside : Pairing Beside where
  directory := fun h => h.directory
  preferred := fun h => by simp only [preferred, h.handle, h.directory]
  isConnected := fun h => by rw [h.channel]
  dial := fun h hostName port => h.dial hostName port
  load := fun h => h.load
  flag := fun h hostName port lastError =>
    { h with directory := by rw [h.directory], lastError := rfl }

theorem matches_ensureConnected (useRedirect : Bool) :
    Matches Beside (ensureConnected useRedirect) :=
  fun _ _ h => pairing_beside.ensureConnected h useRedirect

/-! ### Exchanges -/

/-- What goes the same way on a channel, whatever the world is, does so for two clients. -/
theorem Beside.withLink {α : Type} {x : Link.Action α} (h : Beside c d)
    (hx : Link.Steady (World.Beside c.directory.loaded) x) :
    outcome (x d.link) = outcome (x c.link) ∧
      Beside (c.withLink (finalState (x c.link))) (d.withLink (finalState (x d.link))) := by
  obtain ⟨houtcome, hchannel, hworld⟩ := hx c.channel c.world d.world h.world
  rw [link, h.channel]
  exact ⟨houtcome, { h with channel := hchannel, world := hworld }⟩

theorem matches_onLink {α : Type} {x : Link.Action α}
    (hx : ∀ loaded, Link.Steady (World.Beside loaded) x) : Matches Beside (onLink x) := by
  intro c d h
  obtain ⟨houtcome, hfinal⟩ := h.withLink (hx c.directory.loaded)
  simp only [onLink]
  rcases hr : x c.link with ⟨a, l⟩ | ⟨e, l⟩ <;> rcases hr' : x d.link with ⟨a', m⟩ | ⟨e', m⟩ <;>
    rw [hr, hr'] at houtcome hfinal <;> cases houtcome <;> exact ⟨rfl, hfinal⟩

theorem Matches.closing {α : Type} {x : Action α} (h : Matches Beside x) :
    Matches Beside (closing x) :=
  h.finish (f := fun _ => Client.hangUp) (closing_spec x) fun _ _ _ hcd => hcd.hangUp

theorem Matches.noting {x : Action Reply} (h : Matches Beside x) (uri : String) :
    Matches Beside (noting uri x) := by
  refine h.finish (f := fun r c => c.note (.ofResult uri r)) (fun c => ?_)
    fun _ _ _ hcd => hcd.note _
  simp only [Client.noting]
  cases x c <;> exact ⟨rfl, rfl⟩

theorem matches_frame (uri : String) (body : Bytes) : Matches Beside (frame uri body) := by
  intro c d h
  simp only [frame, h.handle, h.options]
  cases c.handle with
  | none => exact ⟨rfl, h⟩
  | some handle => exact ⟨rfl, h.note _⟩

theorem matches_send (frame : RequestFrame) : Matches Beside (send frame) := by
  have hwrite : Matches Beside
      (onLink (do Link.writeAll frame.head; Link.writeAll frame.body)) :=
    matches_onLink fun loaded => (Link.steady_writeAll (World.inStep_beside loaded) _).bind
      fun _ => Link.steady_writeAll (World.inStep_beside loaded) _
  refine hwrite.finish (f := fun r c => if r.isOk then c else c.hangUp) (fun c => ?_)
    fun r c d hcd => ?_
  · simp only [send]
    cases onLink (do Link.writeAll frame.head; Link.writeAll frame.body) c <;> exact ⟨rfl, rfl⟩
  · split
    · exact hcd
    · exact hcd.hangUp

theorem matches_takeResponse (raw : Bytes) : Matches Beside (takeResponse raw) := by
  intro c d h
  simp only [takeResponse, h.handle]
  cases c.handle with
  | none => exact ⟨rfl, h⟩
  | some handle =>
      dsimp only
      cases (Response.parse raw handle.session).1 <;> exact ⟨rfl, h.learn ..⟩

theorem matches_exchange (uri : String) (body : Bytes) (useRedirect : Bool) :
    Matches Beside (exchange uri body useRedirect) := by
  have hreceive : Matches Beside (onLink (Link.receive .empty)) :=
    matches_onLink fun loaded => Link.steady_receive (World.inStep_beside loaded) .empty
  exact (matches_ensureConnected useRedirect).bind fun _ => (matches_frame uri body).bind
    fun frame => Matches.noting ((matches_send frame).bind fun _ =>
      hreceive.closing.bind matches_takeResponse) uri

theorem matches_converse (uri : String) (body : Bytes) (allowRedirect : Bool)
    {login : Option (Action Unit)} (hl : ∀ x, login = some x → Matches Beside x)
    (hops logins : Nat) :
    Matches Beside (converse uri body allowRedirect login hops logins) := by
  fun_induction converse uri body allowRedirect login hops logins with
  | case1 hops logins ih ih' =>
      refine (matches_exchange uri body allowRedirect).bind fun reply => ?_
      split
      · split
        · exact .throw _
        · split
          · exact .throw _
          · exact (Matches.modify fun c d h => h.followRedirect uri _).bind fun _ => ih
      · split
        · split
          · exact .throw _
          · exact (hl _ rfl).bind fun _ => ih'
        · exact .pure _

theorem matches_login (allowRedirect : Bool) : Matches Beside (login allowRedirect) := by
  refine Matches.get_bind (fun c => ?_) fun c d h => by rw [h.options]
  split
  · exact .throw _
  · refine (matches_converse _ _ _ (by simp) 1 0).bind fun reply => ?_
    have hmark : Matches Beside (modify (·.setAuthenticated true) : Action PUnit) :=
      .modify fun c d h => h.setAuthenticated true
    split
    · exact (Matches.throw _).bind fun _ => hmark
    · exact hmark

theorem matches_request (uri : String) (payload : Json) (allowRedirect : Bool) :
    Matches Beside (request uri payload allowRedirect) := by
  refine Matches.get_bind (fun c => ?_) fun c d h => by rw [h.options]
  refine matches_converse _ _ _ (fun x hx => ?_) 1 _
  split at hx
  · cases hx
  · cases hx
    exact matches_login allowRedirect

/-! ### Subscriptions -/

theorem Beside.handOverAll (h : Beside c d) (subscriber : Subscriber)
    (records : List (Except RpcError Record)) :
    (handOverAll subscriber records d).1 = (handOverAll subscriber records c).1 ∧
      Beside (handOverAll subscriber records c).2 (handOverAll subscriber records d).2 := by
  have hhand {c d : Client} (h : Beside c d) (record : Record) :
      Beside (c.handOver subscriber record) (d.handOver subscriber record) := by
    have hworld := (h.world.emit (.deliver record)).cue (subscriber (c.delivered ++ [record]))
    simp only [handOver, h.delivered]
    exact { h with delivered := rfl, world := hworld }
  induction records generalizing c d with
  | nil => exact ⟨rfl, h⟩
  | cons record records ih =>
      cases record with
      | error e => exact ⟨rfl, h⟩
      | ok record =>
          have hhanded := hhand h record
          simp only [Client.handOverAll, hhanded.world.cancelled]
          split
          · exact ⟨rfl, hhanded⟩
          · split
            · exact ⟨rfl, hhanded⟩
            · exact ih hhanded

/-- What a stream does after its records are handed over. -/
def afterHanding (subscriber : Subscriber) (stream : RecordStream) :
    Option (Except RpcError StreamOutcome) × Client → EStateM.Result RpcError Client StreamOutcome
  | (none, c) => pump subscriber stream c
  | (some (.ok outcome), c) => .ok outcome c
  | (some (.error e), c) => .error e c

/-- What a stream does after a read. -/
def afterRead (subscriber : Subscriber) (stream : RecordStream) (c : Client) :
    EStateM.Result TransportError Link Bytes → EStateM.Result RpcError Client StreamOutcome
  | .error e l =>
      if e.isReadTimeout then pump subscriber stream (c.withLink l)
      else .error (.transport e) (c.withLink l)
  | .ok chunk l =>
      if chunk = [] then .ok .closed (c.withLink l)
      else
        match c.handle with
        | none => .error (.transport .notConnected) (c.withLink l)
        | some handle =>
            let fed := stream.feed chunk
            let drained := fed.drain handle.session
            afterHanding subscriber drained.2.1 (handOverAll subscriber drained.1
              ((c.withLink l).learn handle fed.block? drained.2.2))

/-- Reading a stream, without the proof that it ends. -/
theorem pump_eq (subscriber : Subscriber) (stream : RecordStream) (c : Client) :
    pump subscriber stream c =
      if c.world.cancelled then .ok .cancelled c
      else afterRead subscriber stream c (Link.read readChunk c.link) := by
  rw [pump]
  split
  · rfl
  · split <;> rename_i hr <;> rw [hr, afterRead]
    · split <;> rfl
    · split
      · rfl
      · cases c.handle with
        | none => rfl
        | some handle =>
            dsimp only
            split <;> rename_i hd <;> rw [hd, afterHanding]

theorem afterRead_ok {subscriber : Subscriber} {stream : RecordStream} {c : Client}
    {chunk : Bytes} {handle : Handle} (hne : chunk ≠ []) (hh : c.handle = some handle) (l : Link) :
    afterRead subscriber stream c (.ok chunk l) =
      let fed := stream.feed chunk
      let drained := fed.drain handle.session
      afterHanding subscriber drained.2.1 (handOverAll subscriber drained.1
        ((c.withLink l).learn handle fed.block? drained.2.2)) := by
  simp only [afterRead, if_neg hne, hh]

/-- The same outcome, with `s` as what is left. -/
def leaving {ε σ α : Type} (s : σ) : EStateM.Result ε σ α → EStateM.Result ε σ α
  | .ok a _ => .ok a s
  | .error e _ => .error e s

theorem eq_leaving {ε σ α : Type} {r r' : EStateM.Result ε σ α} (h : outcome r' = outcome r) :
    r' = leaving (finalState r') r := by
  cases r <;> cases r' <;> cases h <;> rfl

/-- The second client reads what the first one reads. -/
theorem Beside.reads (h : Beside c d) (subscriber : Subscriber) (stream : RecordStream)
    (hcancelled : ¬ c.world.cancelled = true) {r : EStateM.Result TransportError Link Bytes}
    (hr : Link.read readChunk c.link = r) : ∃ m,
      pump subscriber stream d = afterRead subscriber stream d (leaving m r) ∧
        Beside (c.withLink (finalState r)) (d.withLink m) := by
  obtain ⟨houtcome, hlink⟩ :=
    h.withLink (Link.steady_read (World.inStep_beside c.directory.loaded) readChunk)
  rw [hr] at houtcome hlink
  refine ⟨_, ?_, hlink⟩
  rw [pump_eq, h.world.cancelled, if_neg hcancelled, ← eq_leaving houtcome]

/-- The records that were read are handed over to the same effect. -/
theorem Beside.hands (h : Beside c d) {subscriber : Subscriber} {handle : Handle}
    {block : Option Bytes} {session : Session} {records : List (Except RpcError Record)}
    {result : Option (Except RpcError StreamOutcome)} {c' : Client}
    (hd : Client.handOverAll subscriber records (c.learn handle block session) = (result, c')) :
    ∃ d', Client.handOverAll subscriber records (d.learn handle block session) = (result, d') ∧
      Beside c' d' := by
  obtain ⟨hresult, hfinal⟩ := (h.learn handle block session).handOverAll subscriber records
  rw [hd] at hresult hfinal
  exact ⟨(Client.handOverAll subscriber records (d.learn handle block session)).2,
    Prod.ext hresult rfl, hfinal⟩

theorem matches_pump (subscriber : Subscriber) (stream : RecordStream) :
    Matches Beside (pump subscriber stream) := by
  intro c d h
  fun_induction pump subscriber stream c generalizing d with
  | case1 stream c hcancelled =>
      rw [pump_eq subscriber stream d, h.world.cancelled, if_pos hcancelled]
      exact ⟨rfl, h⟩
  | case2 stream c hcancelled e l hr htimeout ih =>
      obtain ⟨m, hpump, hlink⟩ := h.reads subscriber stream hcancelled hr
      rw [hpump, leaving, afterRead, if_pos htimeout]
      exact ih _ hlink
  | case3 stream c hcancelled e l hr htimeout =>
      obtain ⟨m, hpump, hlink⟩ := h.reads subscriber stream hcancelled hr
      rw [hpump, leaving, afterRead, if_neg htimeout]
      exact ⟨rfl, hlink⟩
  | case4 stream c hcancelled l hr =>
      obtain ⟨m, hpump, hlink⟩ := h.reads subscriber stream hcancelled hr
      rw [hpump, leaving, afterRead, if_pos rfl]
      exact ⟨rfl, hlink⟩
  | case5 stream c hcancelled chunk l hr hne hh =>
      obtain ⟨m, hpump, hlink⟩ := h.reads subscriber stream hcancelled hr
      rw [hpump, leaving, afterRead, if_neg hne, h.handle, hh]
      exact ⟨rfl, hlink⟩
  | case6 stream c hcancelled chunk l hr hne handle hh fed drained c' c'' hd ih =>
      obtain ⟨m, hpump, hlink⟩ := h.reads subscriber stream hcancelled hr
      obtain ⟨d', hd', hhanded⟩ := hlink.hands hd
      rw [hpump, leaving, afterRead_ok hne (h.handle.trans hh)]
      dsimp only
      rw [hd', afterHanding]
      exact ih _ hhanded
  | case7 stream c hcancelled chunk l hr hne handle hh fed drained c' outcome c'' hd =>
      obtain ⟨m, hpump, hlink⟩ := h.reads subscriber stream hcancelled hr
      obtain ⟨d', hd', hhanded⟩ := hlink.hands hd
      rw [hpump, leaving, afterRead_ok hne (h.handle.trans hh)]
      dsimp only
      rw [hd', afterHanding]
      exact ⟨rfl, hhanded⟩
  | case8 stream c hcancelled chunk l hr hne handle hh fed drained c' e c'' hd =>
      obtain ⟨m, hpump, hlink⟩ := h.reads subscriber stream hcancelled hr
      obtain ⟨d', hd', hhanded⟩ := hlink.hands hd
      rw [hpump, leaving, afterRead_ok hne (h.handle.trans hh)]
      dsimp only
      rw [hd', afterHanding]
      exact ⟨rfl, hhanded⟩

theorem matches_runStream (request : SubscriptionRequest) (body : Bytes)
    (subscriber : Subscriber) : Matches Beside (runStream request body subscriber) := by
  have hrest : Matches Beside (do
      ensureConnected true
      send (← frame request.uri body)
      closing (pump subscriber .fresh)) :=
    (matches_ensureConnected true).bind fun _ => (matches_frame request.uri body).bind
      fun frame => (matches_send frame).bind fun _ => (matches_pump subscriber .fresh).closing
  refine (Matches.modify fun c d h => h.note .attempt).bind fun _ =>
    Matches.get_bind (fun c => ?_) fun c d h => by rw [h.options, isAuthenticated, h.handle]; rfl
  split
  · exact (matches_login true).bind fun _ => hrest
  · exact hrest

theorem Beside.attempt (h : Beside c d) (o : ClientOptions) (request : SubscriptionRequest)
    (body : Bytes) (subscriber : Subscriber) (t : Tally) :
    (attempt o request body subscriber t d).1 = (attempt o request body subscriber t c).1 ∧
      Beside (attempt o request body subscriber t c).2
        (attempt o request body subscriber t d).2 := by
  obtain ⟨houtcome, hfinal⟩ := matches_runStream request body subscriber c d h
  have hprogressed : progressed d (finalState (runStream request body subscriber d)) =
      progressed c (finalState (runStream request body subscriber c)) := by
    rw [progressed, progressed, h.delivered, hfinal.delivered]
  refine ⟨?_, hfinal⟩
  simp only [Client.attempt]
  rw [hprogressed]
  congr 1
  cases hr : runStream request body subscriber c <;>
    cases hr' : runStream request body subscriber d <;> rw [hr, hr'] at houtcome <;>
    cases houtcome <;> rfl

/-- What a subscription does after an attempt. -/
def goOn (o : ClientOptions) (request : SubscriptionRequest) (body : Bytes)
    (subscriber : Subscriber) :
    Decision × Client → EStateM.Result RpcError Client SubscriptionEnd
  | (.finish (.ok done), c) => .ok done c
  | (.finish (.error e), c) => .error e c
  | (.follow targets t, c) =>
      subscriptionLoop o request body subscriber t (followRedirect request.uri targets c)
  | (.renew t, c) => subscriptionLoop o request body subscriber t (c.setAuthenticated false)
  | (.reconnect t, c) =>
      let paused := { c with world := c.world.pause }
      if paused.world.cancelled then .ok .cancelled paused
      else subscriptionLoop o request body subscriber t paused.refreshEndpoints

/-- A subscription, without the proof that it ends. -/
theorem subscriptionLoop_eq (o : ClientOptions) (request : SubscriptionRequest) (body : Bytes)
    (subscriber : Subscriber) (t : Tally) (c : Client) :
    subscriptionLoop o request body subscriber t c =
      if c.world.cancelled then .ok .cancelled c
      else goOn o request body subscriber (attempt o request body subscriber t c) := by
  rw [subscriptionLoop]
  split
  · rfl
  · split <;> rename_i ha <;> rw [ha] <;> rfl

/-- After its attempt the second client does what the first one does. -/
theorem Beside.goesOn (h : Beside c d) {o : ClientOptions} {request : SubscriptionRequest}
    {body : Bytes} {subscriber : Subscriber} {t : Tally} {c' : Client} {decision : Decision}
    (hcancelled : ¬ c.world.cancelled = true)
    (ha : Client.attempt o request body subscriber t c = (decision, c')) : ∃ d', Beside c' d' ∧
      subscriptionLoop o request body subscriber t d =
        goOn o request body subscriber (decision, d') := by
  obtain ⟨hdecision, hfinal⟩ := h.attempt o request body subscriber t
  rw [ha] at hdecision hfinal
  refine ⟨_, hfinal, ?_⟩
  rw [subscriptionLoop_eq, h.world.cancelled, if_neg hcancelled]
  exact congrArg _ (Prod.ext hdecision rfl)

theorem matches_subscriptionLoop (o : ClientOptions) (request : SubscriptionRequest)
    (body : Bytes) (subscriber : Subscriber) (t : Tally) :
    Matches Beside (subscriptionLoop o request body subscriber t) := by
  intro c d h
  fun_induction subscriptionLoop o request body subscriber t c generalizing d with
  | case1 t c hcancelled =>
      rw [subscriptionLoop_eq, h.world.cancelled, if_pos hcancelled]
      exact ⟨rfl, h⟩
  | case2 t c hcancelled done c' ha | case3 t c hcancelled e c' ha =>
      obtain ⟨d', hbeside, hloop⟩ := h.goesOn hcancelled ha
      rw [hloop]
      exact ⟨rfl, hbeside⟩
  | case4 t c hcancelled targets u c' ha ih =>
      obtain ⟨d', hbeside, hloop⟩ := h.goesOn hcancelled ha
      rw [hloop]
      exact ih _ (hbeside.followRedirect request.uri targets)
  | case5 t c hcancelled u c' ha ih =>
      obtain ⟨d', hbeside, hloop⟩ := h.goesOn hcancelled ha
      rw [hloop]
      exact ih _ (hbeside.setAuthenticated false)
  | case6 t c hcancelled u c' ha paused hup =>
      obtain ⟨d', hbeside, hloop⟩ := h.goesOn hcancelled ha
      have hpaused := hbeside.pause
      rw [hloop, goOn, if_pos (hpaused.world.cancelled.trans hup)]
      exact ⟨rfl, hpaused⟩
  | case7 t c hcancelled u c' ha paused hup ih =>
      obtain ⟨d', hbeside, hloop⟩ := h.goesOn hcancelled ha
      have hpaused := hbeside.pause
      have hup' : ¬d'.world.pause.cancelled = true := hpaused.world.cancelled ▸ hup
      rw [hloop, goOn, if_neg hup']
      exact ih _ hpaused.refreshEndpoints

/-! ### Operations -/

/-- What an operation gives back. -/
inductive Answer where
  | done (result : Except RpcError Unit)
  | replied (result : Except RpcError Reply)
  | ended (result : Except RpcError SubscriptionEnd)

def answer : Operation → Client → Answer
  | .connect useRedirect, c => .done (outcome (connect useRedirect c))
  | .reconnect useRedirect, c => .done (outcome (reconnect useRedirect c))
  | .close, _ => .done (.ok ())
  | .call uri payload allowRedirect, c => .replied (outcome (call uri payload allowRedirect c))
  | .authenticate, c => .done (outcome (authenticate c))
  | .subscribe request subscriber, c => .ended (outcome (subscribe request subscriber c))

theorem Beside.operation (h : Beside c d) (op : Operation) :
    answer op d = answer op c ∧ Beside (perform op c) (perform op d) := by
  have hrecording {α : Type} {x : Action α} (hx : Matches Beside x) :
      Matches Beside (recording x) := hx.recording fun c d lastError h => { h with lastError := rfl }
  have hconnect (useRedirect : Bool) : Matches Beside (connect useRedirect) :=
    hrecording (matches_ensureConnected useRedirect)
  cases op with
  | connect useRedirect =>
      obtain ⟨houtcome, hfinal⟩ := hconnect useRedirect c d h
      exact ⟨congrArg Answer.done houtcome, hfinal⟩
  | reconnect useRedirect =>
      have hclose : Matches Beside (modify Client.close : Action PUnit) :=
        .modify fun c d h => h.close
      obtain ⟨houtcome, hfinal⟩ := (hclose.bind fun _ => hconnect useRedirect) c d h
      exact ⟨congrArg Answer.done houtcome, hfinal⟩
  | close => exact ⟨rfl, h.close⟩
  | call uri payload allowRedirect =>
      obtain ⟨houtcome, hfinal⟩ := hrecording (matches_request uri payload allowRedirect) c d h
      exact ⟨congrArg Answer.replied houtcome, hfinal⟩
  | authenticate =>
      obtain ⟨houtcome, hfinal⟩ := hrecording (matches_login true) c d h
      exact ⟨congrArg Answer.done houtcome, hfinal⟩
  | subscribe request subscriber =>
      have hloop : Matches Beside fun c => subscriptionLoop c.options request
          (payloadBytes request.payload) subscriber .zero { c with delivered := [] } := by
        intro c d h
        have hsame : subscriptionLoop d.options = subscriptionLoop c.options :=
          congrArg subscriptionLoop h.options
        dsimp only
        rw [hsame]
        exact matches_subscriptionLoop _ request _ subscriber .zero _ _ { h with delivered := rfl }
      obtain ⟨houtcome, hfinal⟩ := hrecording hloop c d h
      exact ⟨congrArg Answer.ended houtcome, hfinal⟩

end

/-- What a client is put through: an operation, or a change of what it will meet. -/
inductive Move where
  | perform (op : Operation)
  | elapse (dials : List (Cued Dial)) (pauses : List Bool) (cancelled : Bool)

/-- Puts a client through some moves, and collects what it gives back. -/
def run : List Move → Client → List Answer × Client
  | [], c => ([], c)
  | .perform op :: moves, c =>
      let (answers, c') := run moves (perform op c)
      (answer op c :: answers, c')
  | .elapse dials pauses cancelled :: moves, c =>
      run moves { c with world := { c.world with dials, pauses, cancelled } }

theorem Beside.moves {c d : Client} (h : Beside c d) (moves : List Move) :
    (run moves d).1 = (run moves c).1 ∧ Beside (run moves c).2 (run moves d).2 := by
  induction moves generalizing c d with
  | nil => exact ⟨rfl, h⟩
  | cons move moves ih =>
      cases move with
      | perform op =>
          obtain ⟨hanswer, hafter⟩ := h.operation op
          obtain ⟨hanswers, hfinal⟩ := ih hafter
          refine ⟨?_, hfinal⟩
          simp only [run, hanswer, hanswers]
      | elapse dials pauses cancelled =>
          exact ih { h with world := { h.world with
            dials := rfl, pauses := rfl, cancelled := rfl } }

/-- Two stores that can be read alike at the start make no difference, whether what is written to
them stays or not. Through any operations, and whatever the client meets, it gives back the same,
does the same but for what it writes to the store, and ends with the same endpoints and flags, the
same handle and channel. -/
theorem run_of_store {store store' : Store}
    (hget : store'.get Failover.key = store.get Failover.key) (options : ClientOptions)
    (world : World) (moves : List Move) :
    let (answers, c) := run moves (.fresh options { world with store })
    let (answers', c') := run moves (.fresh options { world with store := store' })
    answers' = answers ∧ c'.world.shown = c.world.shown ∧
      c' = { c with world := c'.world } := by
  have hfresh : Beside (.fresh options { world with store })
      (.fresh options { world with store := store' }) :=
    ⟨rfl, rfl, rfl, rfl, rfl, rfl, ⟨rfl, rfl, rfl, rfl, fun _ => hget⟩⟩
  obtain ⟨hanswers, hbeside⟩ := hfresh.moves moves
  refine ⟨hanswers, hbeside.world.shown, ?_⟩
  obtain ⟨hoptions, hchannel, hdirectory, hhandle, hlastError, hdelivered, -⟩ := hbeside
  rw [← hoptions, ← hchannel, ← hdirectory, ← hhandle, ← hlastError, ← hdelivered]

/-- A call that is redirected, with a store that takes the record and one that does not. -/
theorem run_of_unwritable_store :
    let fault : StateError := .write "state.json" (.ofKind .permissionDenied)
    let store : Store := .memory [] none none
    let store' : Store := .memory [] none (some fault)
    let options : ClientOptions := ⟨.ofHost "a" 9500 false, 1000, false, none, 0, 0⟩
    let redirect : Bytes := octets ("HTTP/1.1 200 OK\r\n\r\n\x7b\"requestStatus\":\"Redirect\"," ++
      "\"leader\":\x7b\"hostname\":\"b\",\"port\":1\x7d\x7d")
    let world : World := ⟨[⟨.answered ⟨false, [⟨.data redirect, false⟩], [], []⟩, false⟩],
      [], false, store, []⟩
    let moves : List Move := [.perform (.call "/v2/clusters/" .null true)]
    let (answers, c) := run moves (.fresh options world)
    let (answers', c') := run moves (.fresh options { world with store := store' })
    store'.get Failover.key = store.get Failover.key ∧
      store.set Failover.key .null = .ok (.memory [(Failover.key, .null)] none none) ∧
      store'.set Failover.key .null = .error fault ∧
      answers' = answers ∧ c'.world.shown = c.world.shown ∧ c'.directory = c.directory := by
  intro fault store store' options redirect world moves
  have hget : store'.get Failover.key = store.get Failover.key := rfl
  obtain ⟨hanswers, hshown, hsame⟩ := run_of_store hget options world moves
  exact ⟨hget, rfl, rfl, hanswers, hshown, by rw [hsame]⟩

end Client

end ClusterRpc
