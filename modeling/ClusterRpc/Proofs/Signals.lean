import ClusterRpc.Proofs.Course

/-!
# What the trace tells of the flag and of the records

Whenever the flag goes up the trace takes that in, and nothing else raises it. Apart from that only
a subscription hands records over, pauses and starts attempts: whatever is done to reach a
controller, to log in or to write a request leaves other events behind. The records that a client
has handed over are those in its trace.
-/

namespace ClusterRpc

namespace Event

/-- What only a subscription leaves behind. -/
def isStreaming : Event → Bool := isAmong [.attempt, .deliver, .pause]

/-- Neither left behind by a subscription nor the flag that goes up. -/
def isPlain : Event → Bool := isApart [.attempt, .deliver, .pause, .cancel]

theorem not_isStreaming_of_isPlain {e : Event} (h : e.isPlain = true) : e.isStreaming = false :=
  not_isAmong_of_isApart rfl e h

theorem ne_cancel_of_isPlain {e : Event} (h : e.isPlain = true) : e ≠ .cancel := by
  rintro rfl
  cases h

/-- Hands no record over. -/
def isSilent : Event → Bool := isApart [.deliver]

/-- Hands an event of the controller over. -/
def isNews : Event → Bool
  | .deliver (.event _) => true
  | _ => false

/-- The octets that a read delivers, if it does. -/
def ofRead : Except TransportError Bytes → List Event
  | .ok bytes => [.read bytes]
  | .error _ => []

end Event

/-- The records that are handed over among events. -/
def handed (events : List Event) : List Record :=
  events.filterMap fun
    | .deliver record => some record
    | _ => none

section

variable {events : List Event}

@[simp] theorem handed_append (new more : List Event) :
    handed (new ++ more) = handed new ++ handed more := List.filterMap_append

theorem handed_of_isSilent (h : events.all Event.isSilent = true) : handed events = [] := by
  rw [handed, List.filterMap_eq_nil_iff]
  intro e he
  have hsilent := List.all_eq_true.1 h e he
  cases e <;> first | rfl | cases hsilent

theorem all_isSilent_of_not_isStreaming (h : ∀ e ∈ events, e.isStreaming = false) :
    events.all Event.isSilent = true :=
  List.all_eq_true.2 fun e he => e.isApart_of_not_isAmong rfl (h e he)

theorem handed_of_not_isStreaming (h : ∀ e ∈ events, e.isStreaming = false) :
    handed events = [] :=
  handed_of_isSilent (all_isSilent_of_not_isStreaming h)

/-- An event of the controller is among the records if one is handed over. -/
theorem any_isEvent_handed (events : List Event) :
    (handed events).any Record.isEvent = events.any Event.isNews := by
  rw [handed, List.any_filterMap]
  congr 1
  funext e
  cases e with
  | deliver record => cases record <;> rfl
  | _ => rfl

end

/-! ## The world -/

/-- The trace goes on with `new`, and the flag is up if it was before or went up since. -/
structure World.Shows (w : World) (new : List Event) (w' : World) : Prop where
  trace : w'.trace = w.trace ++ new
  cancelled : w'.cancelled = true ↔ w.cancelled = true ∨ .cancel ∈ new

/-- The trace goes on without an event of a subscription, and the flag is told by it. -/
def World.Signals (w w' : World) : Prop :=
  ∃ new, w.Shows new w' ∧ ∀ e ∈ new, e.isStreaming = false

namespace World

variable {u v w : World}

theorem shows_nil (htrace : v.trace = w.trace) (hcancelled : v.cancelled = w.cancelled) :
    w.Shows [] v := ⟨by simp [htrace], by simp [hcancelled]⟩

theorem Shows.append {new more : List Event} (h : u.Shows new v) (k : v.Shows more w) :
    u.Shows (new ++ more) w where
  trace := by rw [k.trace, h.trace, List.append_assoc]
  cancelled := by rw [k.cancelled, h.cancelled, List.mem_append, or_assoc]

theorem shows_emit {e : Event} (h : e ≠ .cancel) (w : World) : w.Shows [e] (w.emit e) where
  trace := rfl
  cancelled := by
    rw [List.mem_singleton]
    exact ⟨.inl, fun hup => hup.resolve_right h.symm⟩

theorem shows_cue (w : World) (cancels : Bool) : w.Shows (Event.ofCue cancels) (w.cue cancels) where
  trace := w.cue_trace cancels
  cancelled := by cases cancels <;> simp [cue, cancel, Event.ofCue]

theorem Signals.refl (w : World) : w.Signals w := ⟨[], shows_nil rfl rfl, by simp⟩

theorem Signals.trans (h : u.Signals v) (k : v.Signals w) : u.Signals w := by
  obtain ⟨new, hshows, hnew⟩ := h
  obtain ⟨more, hshows', hmore⟩ := k
  refine ⟨new ++ more, hshows.append hshows', ?_⟩
  intro e he
  exact (List.mem_append.1 he).elim (hnew e) (hmore e)

/-- What is still to come does not matter. -/
theorem Signals.of_eq (htrace : v.trace = w.trace) (hcancelled : v.cancelled = w.cancelled) :
    w.Signals v := ⟨[], shows_nil htrace hcancelled, by simp⟩

theorem signals_emit {e : Event} (h : e.isPlain = true) (w : World) : w.Signals (w.emit e) := by
  refine ⟨[e], shows_emit (Event.ne_cancel_of_isPlain h) w, ?_⟩
  intro e' he
  rw [List.mem_singleton.1 he]
  exact Event.not_isStreaming_of_isPlain h

theorem signals_cue (w : World) (cancels : Bool) : w.Signals (w.cue cancels) := by
  refine ⟨_, w.shows_cue cancels, fun e he => ?_⟩
  cases cancels with
  | false => cases he
  | true => rw [List.mem_singleton.1 he]; rfl

theorem passage_signals : Passage Signals where
  refl := .refl
  trans := .trans
  emit := fun w _ h => signals_emit (Event.isApart_of_isAmong rfl _ h) w
  cancel := fun w => w.signals_cue true

theorem signals_connect (w : World) (host : String) (port : Nat) (settings : TransportSettings) :
    w.Signals (w.connect host port settings).2 := by
  have hdial : w.Signals (w.emit (.dial host port settings)) := signals_emit rfl w
  rw [connect]
  split
  · exact hdial
  · rename_i dial rest _
    have hnext : w.Signals { w.emit (.dial host port settings) with dials := rest } :=
      hdial.trans (.of_eq rfl rfl)
    have hcue := hnext.trans (signals_cue _ dial.cancels)
    split
    · exact hcue
    · exact hcue.trans (signals_emit rfl _)

end World

/-! ## The channel -/

namespace Link

/-- What a read leaves behind: the flag may go up a few times before octets arrive, if they do. -/
def readEvents (ups : Nat) (result : Except TransportError Bytes) : List Event :=
  List.replicate ups .cancel ++ Event.ofRead result

theorem all_readEvents (ups : Nat) (result : Except TransportError Bytes) :
    (readEvents ups result).all Event.isIntake = true := by
  rw [readEvents, List.all_append, List.all_replicate, show Event.isIntake .cancel = true from rfl,
    ite_self]
  cases result <;> rfl

theorem shows_readRetrying (endpoint : String) (room retries : Nat) (t : Transport) (w : World) :
    ∃ ups, w.Shows (readEvents ups (readRetrying endpoint room retries t w).1)
      (readRetrying endpoint room retries t w).2.2 := by
  have hcue (w : World) (cancels : Bool) :
      ∃ ups, w.Shows (List.replicate ups .cancel) (w.cue cancels) := by
    refine ⟨if cancels then 1 else 0, ?_⟩
    have hshows := w.shows_cue cancels
    cases cancels <;> exact hshows
  fun_induction readRetrying endpoint room retries t w with
  | case1 retries t w cancels t' w' bytes _ =>
      obtain ⟨ups, hshows⟩ := hcue w cancels
      have hread : w'.Shows [.read bytes] (w'.emit (.read bytes)) := World.shows_emit (by simp) w'
      exact ⟨ups, hshows.append hread⟩
  | case2 t w cancels | case4 retries t w cancels | case5 retries t w cancels =>
      obtain ⟨ups, hshows⟩ := hcue w cancels
      refine ⟨ups, ?_⟩
      simpa only [readEvents, Event.ofRead, List.append_nil] using hshows
  | case3 t w cancels t' w' cause _ retries _ ih =>
      obtain ⟨ups, hshows⟩ := hcue w cancels
      obtain ⟨more, hmore⟩ := ih
      refine ⟨ups + more, ?_⟩
      have happend := hshows.append hmore
      rw [readEvents, ← List.append_assoc, List.replicate_append_replicate] at happend
      exact happend

theorem shows_read (room : Nat) (l : Link) :
    ∃ ups, l.world.Shows (readEvents ups (outcome (read room l)))
      (finalState (read room l)).world := by
  rcases l with ⟨channel, world⟩
  cases channel with
  | connected endpoint t =>
      obtain ⟨ups, hshows⟩ := shows_readRetrying endpoint room (retryLimit t.tls) t world
      refine ⟨ups, ?_⟩
      simp only [read]
      rcases hr : readRetrying endpoint room (retryLimit t.tls) t world with ⟨_ | _, t', w⟩ <;>
        rw [hr] at hshows <;> exact hshows
  | _ => exact ⟨0, World.shows_nil rfl rfl⟩

end Link

/-! ## The directory -/

namespace Directory

theorem signals_ensureLoaded (d : Directory) (w : World) : w.Signals (d.ensureLoaded w).2 := by
  simp only [ensureLoaded, load, World.getState]
  split
  · exact .refl w
  · cases w.store.get Failover.key <;> exact World.signals_emit rfl w

theorem signals_rememberRedirect (d : Directory) (targets : RedirectTargets) (w : World) :
    w.Signals (d.rememberRedirect targets w).2.2 := by
  have hget : w.Signals ((d.ensureLoaded w).2.emit (.get Failover.key)) :=
    (d.signals_ensureLoaded w).trans (World.signals_emit rfl _)
  simp only [rememberRedirect, persist, World.getState]
  cases (d.ensureLoaded w).2.store.get Failover.key with
  | error e => exact hget
  | ok stored =>
      exact hget.trans ((World.signals_emit rfl _).trans (World.Signals.of_eq rfl rfl))

end Directory

/-! ## Clients -/

namespace Client

theorem signals_takeHandle (c : Client) (hostName : String) (port : Nat) :
    c.world.Signals (c.takeHandle hostName port).world := by
  rw [takeHandle]
  split
  · exact .refl _
  · exact World.signals_emit rfl c.world

theorem shows_learn (c : Client) (handle : Handle) (block : Option Bytes) (session : Session) :
    c.world.Shows (block.map .learn).toList (c.learn handle block session).world := by
  cases block with
  | none => exact World.shows_nil rfl rfl
  | some block => exact World.shows_emit (by simp) c.world

theorem signals_setAuthenticated (c : Client) (authenticated : Bool) :
    c.world.Signals (c.setAuthenticated authenticated).world := by
  rw [setAuthenticated]
  split
  · exact .refl _
  · exact World.signals_emit rfl c.world

theorem signals_dial (hostName : String) (port : Nat) (c : Client) :
    c.world.Signals (finalState (c.dial hostName port)).world := by
  have hconnect := (World.passage_signals.hangUp c).trans
    (c.hangUp.world.signals_connect hostName port c.options.transportSettings)
  rw [dial_eq]
  rcases hr : c.hangUp.world.connect hostName port c.options.transportSettings with ⟨e | t, w⟩ <;>
    rw [hr] at hconnect
  · exact hconnect
  · let opened := { c with channel := .connected (endpointLabel hostName port) t, world := w }
    exact hconnect.trans (signals_takeHandle opened hostName port)

theorem signals_followRedirect (uri : String) (targets : RedirectTargets) (c : Client) :
    c.world.Signals (followRedirect uri targets c).world := by
  have hremember : c.world.Signals
      (c.directory.rememberRedirect targets (c.note (.follow uri targets)).world).2.2 :=
    (World.signals_emit rfl c.world).trans (Directory.signals_rememberRedirect ..)
  let followed := c.note (.follow uri targets)
  let turned := { followed with
    directory := (c.directory.rememberRedirect targets followed.world).2.1
    world := (c.directory.rememberRedirect targets followed.world).2.2 }
  exact hremember.trans
    ((World.passage_signals.hangUp turned).trans (signals_takeHandle turned.hangUp ..))

theorem signals_refreshEndpoints (c : Client) : c.world.Signals c.refreshEndpoints.world :=
  Directory.signals_ensureLoaded ..

section

variable {α : Type} {w : World}

theorem keeps_signals_ensureConnected (useRedirect : Bool) :
    Keeps (fun c => w.Signals c.world) (ensureConnected useRedirect) := by
  have hsearch : Searching fun c => w.Signals c.world := {
    dialPreferred := fun _ h => h.trans (signals_dial ..)
    dialUntried := fun _ _ _ h => h.trans (signals_dial ..)
    load := fun _ h => h.trans (Directory.signals_ensureLoaded ..)
    flag := fun _ _ _ _ h => h }
  exact keeps_of_finalState fun _ h => hsearch.ensureConnected useRedirect h

theorem exchanging_signals (allowRedirect : Bool) :
    Exchanging allowRedirect (fun c => w.Signals c.world) fun _ _ c => w.Signals c.world where
  exchange := fun uri body =>
    (keeps_signals_ensureConnected allowRedirect).bind fun _ =>
      World.passage_signals.transact uri body
  kept := fun _ _ _ h => h
  followRedirect := fun _ uri targets c h => h.trans (signals_followRedirect uri targets c)
  accept := fun _ c _ h => h.trans (signals_setAuthenticated c true)

theorem keeps_signals_logIn : Keeps (fun c => w.Signals c.world) logIn := by
  refine Keeps.get_bind fun c => ?_
  split
  · exact (exchanging_signals true).login
  · exact fun _ h => h

theorem keeps_signals_writeRequest (uri : String) (body : Bytes) :
    Keeps (fun c => w.Signals c.world) (writeRequest uri body) :=
  (World.passage_signals.frame uri body).bind World.passage_signals.send

end

/-! ## Records -/

/-- What is handed over meanwhile is told by the trace. -/
def Told (c c' : Client) : Prop :=
  ∃ new, c'.world.trace = c.world.trace ++ new ∧ c'.delivered = c.delivered ++ handed new

/-- Whether an event of the controller is handed over between two states. -/
def eventful (before after : Client) : Bool :=
  (after.world.trace.drop before.world.trace.length).any Event.isNews

section

variable {c c' c'' : Client}

theorem Told.trans (h : Told c c') (k : Told c' c'') : Told c c'' := by
  obtain ⟨new, htrace, hdelivered⟩ := h
  obtain ⟨more, htrace', hdelivered'⟩ := k
  refine ⟨new ++ more, ?_, ?_⟩
  · rw [htrace', htrace, List.append_assoc]
  · rw [hdelivered', hdelivered, handed_append, List.append_assoc]

theorem Told.of_silent (hdelivered : c'.delivered = c.delivered)
    (h : c.world.Grows Event.isSilent c'.world) : Told c c' := by
  obtain ⟨new, htrace, hsilent⟩ := h
  exact ⟨new, htrace, by rw [hdelivered, handed_of_isSilent hsilent, List.append_nil]⟩

theorem Told.refl (c : Client) : Told c c := .of_silent rfl (.refl _)

/-- By what was handed over a subscription knows of the events in its trace. -/
theorem Told.progressed (h : Told c c') : progressed c c' = eventful c c' := by
  obtain ⟨new, htrace, hdelivered⟩ := h
  rw [Client.progressed, eventful, htrace, hdelivered, List.drop_left, List.drop_left,
    any_isEvent_handed]

theorem eventful_of_silent (h : c.world.Grows Event.isSilent c'.world) : eventful c c' = false := by
  obtain ⟨new, htrace, hsilent⟩ := h
  rw [eventful, htrace, List.drop_left, ← any_isEvent_handed, handed_of_isSilent hsilent]
  rfl

/-- An event between two states is handed over before or after any state between them. -/
theorem eventful_trans (h : c.world.trace <+: c'.world.trace)
    (k : c'.world.trace <+: c''.world.trace) : eventful c c'' = (eventful c c' || eventful c' c'') := by
  obtain ⟨new, hnew⟩ := h
  obtain ⟨more, hmore⟩ := k
  simp only [eventful, ← hmore, ← hnew, List.append_assoc, List.drop_left, List.any_append]
  rw [← List.append_assoc, List.drop_left]

theorem silent_of_signals (h : c.world.Signals c'.world) :
    c.world.Grows Event.isSilent c'.world := by
  obtain ⟨new, hshows, hnew⟩ := h
  exact ⟨new, hshows.trace, all_isSilent_of_not_isStreaming hnew⟩

theorem told_handOver (subscriber : Subscriber) (record : Record) (c : Client) :
    Told c (c.handOver subscriber record) := by
  have hcue := (c.world.emit (.deliver record)).cue_trace (subscriber (c.delivered ++ [record]))
  refine ⟨.deliver record :: Event.ofCue (subscriber (c.delivered ++ [record])), ?_, ?_⟩
  · rw [List.append_cons]
    exact hcue
  · have hnone := handed_of_isSilent (Event.all_ofCue (p := Event.isSilent) rfl
      (subscriber (c.delivered ++ [record])))
    change c.delivered ++ [record] = c.delivered ++ record :: handed _
    rw [hnone]

theorem told_handOverAll (subscriber : Subscriber) (records : List (Except RpcError Record))
    (c : Client) : Told c (handOverAll subscriber records c).2 := by
  fun_induction handOverAll subscriber records c with
  | case1 c | case2 e _ c => exact .refl c
  | case3 record rest c | case4 record rest c => exact told_handOver ..
  | case5 record rest c c' _ _ ih => exact (told_handOver ..).trans ih

theorem told_pump (subscriber : Subscriber) (stream : RecordStream) (c : Client) :
    Told c (finalState (pump subscriber stream c)) := by
  have hread (c : Client) : Told c (c.withLink (finalState (Link.read readChunk c.link))) := by
    obtain ⟨ups, hshows⟩ := Link.shows_read readChunk c.link
    have hintake : c.world.Grows Event.isIntake (finalState (Link.read readChunk c.link)).world :=
      ⟨_, hshows.trace, Link.all_readEvents ups _⟩
    exact .of_silent rfl (hintake.mono (Event.isApart_of_isAmong rfl))
  have hhand {c c'' : Client} {chunk : Bytes} {l : Link} {handle : Handle} {block : Option Bytes}
      {session : Session} {records : List (Except RpcError Record)}
      {outcome : Option (Except RpcError StreamOutcome)}
      (hr : Link.read readChunk c.link = .ok chunk l)
      (hd : handOverAll subscriber records ((c.withLink l).learn handle block session) =
        (outcome, c'')) : Told c c'' := by
    have hread := hread c
    have hlearn : Told (c.withLink l) ((c.withLink l).learn handle block session) := by
      refine .of_silent (onward_learn ..).delivered
        ⟨_, ((c.withLink l).shows_learn handle block session).trace, ?_⟩
      cases block <;> rfl
    have hhanded := told_handOverAll subscriber records
      ((c.withLink l).learn handle block session)
    rw [hr] at hread
    rw [hd] at hhanded
    exact (hread.trans hlearn).trans hhanded
  fun_induction pump subscriber stream c with
  | case1 stream c => exact .refl c
  | case2 stream c _ e l hr _ ih =>
      have hread := hread c
      rw [hr] at hread
      exact hread.trans ih
  | case3 stream c _ e l hr | case4 stream c _ l hr | case5 stream c _ chunk l hr =>
      have hread := hread c
      rwa [hr] at hread
  | case6 stream c _ chunk l hr _ handle _ fed drained c' c'' hd ih =>
      exact (hhand hr hd).trans ih
  | case7 stream c _ chunk l hr _ handle _ fed drained c' outcome c'' hd =>
      exact hhand hr hd
  | case8 stream c _ chunk l hr _ handle _ fed drained c' e c'' hd =>
      exact hhand hr hd

theorem told_opening (request : SubscriptionRequest) (body : Bytes) (c : Client) :
    Told c (finalState (opening request body c)) := by
  have hrest (w : World) : Keeps (fun c => w.Signals c.world)
      (logIn >>= fun _ => do ensureConnected true; writeRequest request.uri body) :=
    keeps_signals_logIn.bind fun _ => (keeps_signals_ensureConnected true).bind fun _ =>
      keeps_signals_writeRequest request.uri body
  have hattempt : c.world.Grows Event.isSilent (c.note .attempt).world := World.grows_emit rfl
  refine .of_silent ((keeps_onward_opening request body).finalState (.refl c)).delivered ?_
  exact hattempt.trans (silent_of_signals ((hrest _).finalState (World.Signals.refl _)))

theorem told_runStream (request : SubscriptionRequest) (body : Bytes) (subscriber : Subscriber)
    (c : Client) : Told c (finalState (runStream request body subscriber c)) := by
  have hopening := told_opening request body c
  rcases hr : opening request body c with ⟨⟨⟩, c'⟩ | ⟨e, c'⟩ <;> rw [hr] at hopening
  · rw [runStream_of_opened hr, (closing_spec (pump subscriber .fresh) c').2]
    refine (hopening.trans (told_pump subscriber .fresh c')).trans ?_
    exact .of_silent (onward_hangUp _).delivered (grows_hangUp rfl _)
  · rw [runStream_of_unopened hr]
    exact hopening

end

end Client

end ClusterRpc
