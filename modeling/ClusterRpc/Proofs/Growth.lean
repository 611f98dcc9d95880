import ClusterRpc.Proofs.Writing

/-!
# What actions add to the trace

The trace only grows. This file says for every action on the channel which events it adds, in what
order, and what the octets in them amount to; the actions of a client are made of these.
-/

namespace ClusterRpc

/-! ## The channel -/

namespace Link

theorem close_trace (l : Link) :
    (l.channel.close l.world).2.trace =
      l.world.trace ++ if l.channel.isConnected then [.shutdown] else [] := by
  rcases l with ⟨channel, world⟩
  cases channel <;> simp [Channel.close, Channel.isConnected, World.emit]

/-- Connecting is hanging up and dialling. -/
theorem connect_eq (host : String) (port : Nat) (settings : TransportSettings) (l : Link) :
    connect host port settings l =
      match (l.channel.close l.world).2.connect host port settings with
      | (.ok transport, w) => .ok () ⟨.connected (endpointLabel host port) transport, w⟩
      | (.error e, w) => .error e ⟨.disconnected, w⟩ := by
  simp only [connect, close, Bind.bind, EStateM.bind, get_apply, modify_apply]
  rcases (l.channel.close l.world).2.connect host port settings with ⟨_ | _, w⟩ <;> rfl

/-- A read, with its retries, takes exactly the octets it delivers. -/
theorem readRetrying_trace (endpoint : String) (room retries : Nat) (t : Transport) (w : World) :
    ∃ new, (readRetrying endpoint room retries t w).2.2.trace = w.trace ++ new ∧
      new.all Event.isIntake = true ∧
      new.flatMap Event.octetsRead =
        match (readRetrying endpoint room retries t w).1 with
        | .ok bytes => bytes
        | .error _ => [] := by
  have hcue (w : World) (cancels : Bool) : ∃ new, (w.cue cancels).trace = w.trace ++ new ∧
      new.all Event.isIntake = true ∧ new.flatMap Event.octetsRead = [] :=
    ⟨_, w.cue_trace cancels, Event.all_ofCue rfl cancels, Event.flatMap_octetsRead_ofCue cancels⟩
  fun_induction readRetrying endpoint room retries t w with
  | case1 retries t w cancels t' w' bytes _ =>
      obtain ⟨new, hnew, hall, hoctets⟩ := hcue w cancels
      refine ⟨new ++ [.read bytes], ?_, ?_, ?_⟩
      · simp [World.emit, w', hnew]
      · rw [List.all_append, hall]
        rfl
      · simp [hoctets, Event.octetsRead]
  | case2 t w cancels => exact hcue w cancels
  | case3 t w cancels t' w' cause _ retries _ ih =>
      obtain ⟨new, hnew, hall, hoctets⟩ := hcue w cancels
      obtain ⟨new', hnew', hall', hoctets'⟩ := ih
      refine ⟨new ++ new', ?_, ?_, ?_⟩
      · rw [hnew', hnew, List.append_assoc]
      · simp [hall, hall']
      · rw [List.flatMap_append, hoctets, hoctets', List.nil_append]
  | case4 retries t w cancels => exact hcue w cancels
  | case5 retries t w cancels => exact hcue w cancels

/-- What a read on an open channel does: the channel stays open, and the trace takes in the octets
delivered. -/
theorem read_connected (room : Nat) (endpoint : String) (t : Transport) (w : World) :
    ∃ t' w' new, finalState (read room ⟨.connected endpoint t, w⟩) = ⟨.connected endpoint t', w'⟩ ∧
      w'.trace = w.trace ++ new ∧ new.all Event.isIntake = true ∧
      new.flatMap Event.octetsRead =
        match outcome (read room ⟨.connected endpoint t, w⟩) with
        | .ok bytes => bytes
        | .error _ => [] := by
  obtain ⟨new, hnew, hall, hoctets⟩ :=
    readRetrying_trace endpoint room (retryLimit t.tls) t w
  simp only [read]
  rcases hr : readRetrying endpoint room (retryLimit t.tls) t w with ⟨_ | bytes, t', w'⟩ <;>
    rw [hr] at hnew hoctets <;> exact ⟨t', w', new, rfl, hnew, hall, hoctets⟩

/-- What receiving on an open channel does: the response is what was there before and the octets
that the trace takes in. -/
theorem receive_connected (buffer : ReceiveBuffer) (endpoint : String) (t : Transport) (w : World) :
    ∃ t' w' new,
      finalState (receive buffer ⟨.connected endpoint t, w⟩) = ⟨.connected endpoint t', w'⟩ ∧
      w'.trace = w.trace ++ new ∧ new.all Event.isIntake = true ∧
      ∀ raw, outcome (receive buffer ⟨.connected endpoint t, w⟩) = .ok raw →
        raw = buffer.bytes ++ new.flatMap Event.octetsRead := by
  generalize hl : (⟨.connected endpoint t, w⟩ : Link) = l
  fun_induction receive buffer l generalizing t w with
  | case1 buffer l hc =>
      subst hl
      refine ⟨t, w, [], rfl, by simp, rfl, ?_⟩
      rintro raw ⟨⟩
      simp
  | case2 buffer l hc e l' h =>
      subst hl
      obtain ⟨t', w', new, hfinal, hnew, hall, -⟩ :=
        read_connected readChunk endpoint t w
      rw [h] at hfinal
      exact ⟨t', w', new, hfinal, hnew, hall, by rintro raw ⟨⟩⟩
  | case3 buffer l hc l' h =>
      subst hl
      obtain ⟨t', w', new, hfinal, hnew, hall, hoctets⟩ :=
        read_connected readChunk endpoint t w
      rw [h] at hfinal hoctets
      refine ⟨t', w', new, hfinal, hnew, hall, ?_⟩
      rintro raw ⟨⟩
      rw [hoctets]
      simp [outcome]
  | case4 buffer l hc chunk l' h hne ih =>
      subst hl
      obtain ⟨t', w', new, hfinal, hnew, hall, hoctets⟩ :=
        read_connected readChunk endpoint t w
      rw [h] at hfinal hoctets
      obtain ⟨t'', w'', new', hfinal', hnew', hall', hraw⟩ := ih t' w' hfinal.symm
      refine ⟨t'', w'', new ++ new', hfinal', ?_, by simp [hall, hall'], ?_⟩
      · rw [hnew', hnew, List.append_assoc]
      · intro raw hok
        rw [hraw raw hok, List.flatMap_append, hoctets]
        simp [outcome, ReceiveBuffer.append]

/-- What writing on an open channel does: the channel stays open, and the octets that the trace
takes in are the first ones of those given, and all of them if the writing succeeds. -/
theorem writeAll_connected (bytes : Bytes) (endpoint : String) (t : Transport) (w : World) :
    ∃ t' w' new,
      finalState (writeAll bytes ⟨.connected endpoint t, w⟩) = ⟨.connected endpoint t', w'⟩ ∧
      w'.trace = w.trace ++ new ∧ new.all Event.isOutput = true ∧
      new.flatMap Event.octetsWritten <+: bytes ∧
      (outcome (writeAll bytes ⟨.connected endpoint t, w⟩) = .ok () →
        new.flatMap Event.octetsWritten = bytes) := by
  obtain ⟨hend, t', w', new, hfinal, hnew, hall, hsent⟩ := writeAll_ends bytes endpoint t w
  refine ⟨t', w', new, hfinal, hnew, hall, hsent ▸ WriteScript.sent_isPrefix .., fun hok => ?_⟩
  rw [hend, ending_eq_ok_iff, writeObstacle?, Option.or_eq_none_iff] at hok
  rw [hsent, WriteScript.obstacle?_eq_none_iff.1 hok.1]

/-- Writing the two parts of a request, one after the other, is as good as writing them together. -/
theorem writeBoth_connected (head body : Bytes) (endpoint : String) (t : Transport) (w : World) :
    ∃ t' w' new,
      finalState ((do writeAll head; writeAll body : Action Unit) ⟨.connected endpoint t, w⟩) =
        ⟨.connected endpoint t', w'⟩ ∧
      w'.trace = w.trace ++ new ∧ new.all Event.isOutput = true ∧
      new.flatMap Event.octetsWritten <+: head ++ body ∧
      (outcome ((do writeAll head; writeAll body : Action Unit) ⟨.connected endpoint t, w⟩) =
        .ok () → new.flatMap Event.octetsWritten = head ++ body) := by
  obtain ⟨t', w', new, hfinal, hnew, hall, hpre, hok⟩ := writeAll_connected head endpoint t w
  simp only [Bind.bind, EStateM.bind]
  rcases hh : writeAll head ⟨.connected endpoint t, w⟩ with ⟨⟨⟩, l⟩ | ⟨e, l⟩
  · rw [hh] at hfinal hok
    obtain rfl : l = ⟨.connected endpoint t', w'⟩ := hfinal
    obtain ⟨t'', w'', new', hfinal', hnew', hall', hpre', hok'⟩ :=
      writeAll_connected body endpoint t' w'
    refine ⟨t'', w'', new ++ new', hfinal', by rw [hnew', hnew, List.append_assoc],
      by simp [hall, hall'], ?_, ?_⟩
    · rw [List.flatMap_append, hok rfl]
      exact (List.prefix_append_right_inj _).2 hpre'
    · intro h
      rw [List.flatMap_append, hok rfl, hok' h]
  · rw [hh] at hfinal
    exact ⟨t', w', new, hfinal, hnew, hall, hpre.trans (List.prefix_append ..), by rintro ⟨⟩⟩

end Link

/-! ## The directory -/

namespace Directory

theorem load_trace (d : Directory) (w : World) :
    (d.load w).2.2.trace = w.trace ++ if d.loaded then [] else [.get Failover.key] := by
  rw [load]
  cases hl : d.loaded with
  | true => simp
  | false =>
      simp only [World.getState, Bool.false_eq_true, if_false]
      cases w.store.get Failover.key <;> rfl

theorem grows_ensureLoaded {p : Event → Bool} (hp : p (.get Failover.key) = true) (d : Directory)
    (w : World) : w.Grows p (d.ensureLoaded w).2 := by
  refine ⟨_, d.load_trace w, ?_⟩
  cases d.loaded <;> simp [hp]

theorem grows_rememberRedirect {p : Event → Bool} (hp : p (.get Failover.key) = true)
    (hp' : ∀ value, p (.set Failover.key value) = true) (d : Directory) (targets : RedirectTargets)
    (w : World) : w.Grows p (d.rememberRedirect targets w).2.2 := by
  refine (grows_ensureLoaded hp d w).trans ?_
  simp only [rememberRedirect, persist, World.getState]
  have hget : (d.ensureLoaded w).2.Grows p ((d.ensureLoaded w).2.emit (.get Failover.key)) :=
    World.grows_emit hp
  cases (d.ensureLoaded w).2.store.get Failover.key with
  | error e => exact hget
  | ok stored =>
      exact hget.trans (World.Grows.trans (World.grows_emit (hp' _)) (.of_trace_eq rfl))

end Directory

/-! ## Clients -/

namespace Client

theorem hangUp_trace (c : Client) :
    c.hangUp.world.trace = c.world.trace ++ if c.channel.isConnected then [.shutdown] else [] :=
  Link.close_trace c.link

theorem grows_hangUp {p : Event → Bool} (hp : p .shutdown = true) (c : Client) :
    c.world.Grows p c.hangUp.world := by
  refine ⟨_, c.hangUp_trace, ?_⟩
  split <;> simp [hp]

theorem grows_takeHandle {p : Event → Bool} {hostName : String} {port : Nat}
    (hp : p (.adopt hostName port) = true) (c : Client) :
    c.world.Grows p (c.takeHandle hostName port).world := by
  rw [takeHandle]
  split
  · exact .refl _
  · exact World.grows_emit hp

theorem grows_setAuthenticated {p : Event → Bool} {authenticated : Bool}
    (hp : p (.mark authenticated) = true) (c : Client) :
    c.world.Grows p (c.setAuthenticated authenticated).world := by
  rw [setAuthenticated]
  split
  · exact .refl _
  · exact World.grows_emit hp

/-- Turning to the leader of a redirect is seen first; what it takes comes after. -/
theorem grows_followRedirect (uri : String) (targets : RedirectTargets) (c : Client) :
    (c.world.emit (.follow uri targets)).Grows Event.isTurning
      (followRedirect uri targets c).world := by
  have hremember := c.directory.grows_rememberRedirect (p := Event.isTurning) rfl (fun _ => rfl)
    targets (c.world.emit (.follow uri targets))
  exact hremember.trans ((grows_hangUp rfl _).trans (grows_takeHandle rfl _))

theorem grows_handOverAll {p : Event → Bool} (hcancel : p .cancel = true)
    (hdeliver : ∀ record, p (.deliver record) = true) (subscriber : Subscriber)
    (records : List (Except RpcError Record)) (c : Client) :
    c.world.Grows p (handOverAll subscriber records c).2.world := by
  have hhand (record : Record) (c : Client) :
      c.world.Grows p (c.handOver subscriber record).world :=
    (World.grows_emit (hdeliver record)).trans (World.grows_cue hcancel _)
  fun_induction handOverAll subscriber records c with
  | case1 c | case2 e _ c => exact .refl _
  | case3 record rest c | case4 record rest c => exact hhand record c
  | case5 record rest c c' _ _ ih => exact (hhand record c).trans ih

end Client

end ClusterRpc
