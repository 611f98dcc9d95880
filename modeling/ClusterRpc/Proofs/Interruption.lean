import ClusterRpc.Proofs.Cancellation
import ClusterRpc.Proofs.Patience

/-!
# Subscriptions that the flag interrupts

A subscription looks at the flag before each attempt, and nothing else happens between two attempts
that could raise it but the pause, which ends with a look at it as well. So the attempt during which
the flag goes up is the last one. It decides how the subscription ends: with its failure, if there is
a reason to give up, and as cancelled otherwise.
-/

namespace ClusterRpc

/-! ## One attempt -/

/-- What the loop of a subscription leaves behind, and no part of an attempt does. -/
def Event.isLooping : Event → Bool := isAmong [.attempt, .pause]

/-- The trace goes on without a further attempt or a pause, and the flag is told by it. -/
def World.Inside (w w' : World) : Prop :=
  ∃ new, w.Shows new w' ∧ ∀ e ∈ new, e.isLooping = false

namespace World

variable {u v w : World}

theorem Inside.trans (h : u.Inside v) (k : v.Inside w) : u.Inside w := by
  obtain ⟨new, hshows, hnew⟩ := h
  obtain ⟨more, hshows', hmore⟩ := k
  refine ⟨new ++ more, hshows.append hshows', ?_⟩
  intro e he
  exact (List.mem_append.1 he).elim (hnew e) (hmore e)

theorem Signals.inside (h : v.Signals w) : v.Inside w := by
  obtain ⟨new, hshows, hnew⟩ := h
  exact ⟨new, hshows, fun e he => e.not_isAmong_mono rfl (hnew e he)⟩

theorem inside_deliver (w : World) (record : Record) : w.Inside (w.emit (.deliver record)) :=
  ⟨_, shows_emit (by simp) w, List.forall_mem_singleton.2 rfl⟩

theorem passage_inside : Passage Inside where
  refl := fun w => (Signals.refl w).inside
  trans := .trans
  emit := fun w _ h => (signals_emit (Event.isApart_of_isAmong rfl _ h) w).inside
  cancel := fun w => (w.signals_cue true).inside

end World

namespace Client

section

variable {w : World}

theorem keeps_inside_of_signals {α : Type} {x : Action α}
    (h : ∀ v : World, Keeps (fun c => v.Signals c.world) x) : Keeps (fun c => w.Inside c.world) x :=
  keeps_of_finalState fun c hc => hc.trans ((h c.world).finalState (.refl _)).inside

/-- An attempt starts itself, and no other one. -/
theorem inside_runStream (request : SubscriptionRequest) (body : Bytes) (subscriber : Subscriber)
    (c : Client) : (c.note .attempt).world.Inside
      (finalState (runStream request body subscriber c)).world := by
  have hlisten (w : World) : Keeps (fun c => w.Inside c.world)
      (listen request body subscriber) := by
    refine (keeps_inside_of_signals fun v => keeps_signals_ensureConnected true).bind fun _ => ?_
    refine ((World.passage_inside.frame request.uri body).bind World.passage_inside.send).bind
      fun _ => ?_
    refine Keeps.closing (keeps_of_finalState fun c h => ?_) fun c h => ?_
    · exact h.trans (World.passage_inside.pump World.inside_deliver subscriber .fresh c)
    · exact h.trans (World.passage_inside.hangUp c)
  rw [runStream_apply]
  exact ((keeps_inside_of_signals fun _ => keeps_signals_logIn).bind fun _ => hlisten _).finalState
    (World.Signals.refl _).inside

end

end Client

/-! ## The flag between attempts -/

/-- How the attempts of a subscription belong together with the events it leaves behind, and with
its result. -/
structure Obeys (attempts : List Attempt) (events : List Event)
    (result : Except RpcError SubscriptionEnd) : Prop where
  /-- The attempts are told by the events. -/
  started : events.count .attempt = attempts.length
  /-- Without an attempt nothing happens at all. -/
  idle : attempts = [] → events = [] ∧ result = .ok .cancelled
  /-- No attempt is started once the flag went up. -/
  stopped : ∀ before after, events = before ++ .cancel :: after → .attempt ∉ after
  /-- What ends in a pause is cancelled. -/
  resting : ∀ before after, events = before ++ .pause :: after → .attempt ∉ after →
    result = .ok .cancelled

section

variable {a : Attempt} {rest : List Attempt} {new more : List Event}
  {result : Except RpcError SubscriptionEnd}

theorem split_of_attempt {e : Event} {before after : List Event} (he : e ≠ .attempt)
    (h : .attempt :: new = before ++ e :: after) : ∃ middle, new = middle ++ e :: after :=
  split_of_not_mem (mt List.mem_singleton.1 he) h

theorem Obeys.nil : Obeys [] [] (.ok .cancelled) where
  started := rfl
  idle := fun _ => ⟨rfl, rfl⟩
  stopped := by simp
  resting := by simp

/-- The last attempt. -/
theorem Obeys.single (hnew : .attempt ∉ new) (hpause : .pause ∈ new → result = .ok .cancelled) :
    Obeys [a] (.attempt :: new) result where
  started := by rw [List.count_cons_self, List.count_eq_zero.2 hnew]; rfl
  idle := by simp
  stopped := by
    intro before after hsplit
    obtain ⟨middle, rfl⟩ := split_of_attempt (by simp) hsplit
    exact fun hmem => hnew (List.mem_append_right middle (List.mem_cons_of_mem _ hmem))
  resting := by
    intro before after hsplit _
    obtain ⟨middle, rfl⟩ := split_of_attempt (by simp) hsplit
    exact hpause (List.mem_append_right middle List.mem_cons_self)

/-- An attempt after which the subscription goes on; it makes no further one if the flag is up. -/
theorem Obeys.cons (hnew : .attempt ∉ new) (hstop : .cancel ∈ new → rest = [])
    (h : Obeys rest more result) : Obeys (a :: rest) (.attempt :: new ++ more) result where
  started := by
    rw [List.count_append, List.count_cons_self, List.count_eq_zero.2 hnew, h.started,
      List.length_cons, Nat.add_comm]
  idle := by simp
  stopped := by
    intro before after hsplit
    rcases split_append hsplit with ⟨last, hfront, rfl⟩ | ⟨middle, -, hback⟩
    · obtain ⟨middle, rfl⟩ := split_of_attempt (by simp) hfront
      have hrest := hstop (List.mem_append_right middle List.mem_cons_self)
      rw [(h.idle hrest).1, List.append_nil]
      exact fun hmem => hnew (List.mem_append_right middle (List.mem_cons_of_mem _ hmem))
    · exact h.stopped middle after hback
  resting := by
    intro before after hsplit hafter
    rcases split_append hsplit with ⟨last, -, rfl⟩ | ⟨middle, -, hback⟩
    · have hcount := List.count_eq_zero.2 fun hmem => hafter (List.mem_append_right last hmem)
      rw [h.started, List.length_eq_zero_iff] at hcount
      exact (h.idle hcount).2
    · exact h.resting middle after hback hafter

end

namespace World

/-- What a pause leaves behind. -/
theorem shows_pause (w : World) : ∃ cancels, w.Shows (.pause :: Event.ofCue cancels) w.pause := by
  have hpause : w.Shows [.pause] (w.emit .pause) := shows_emit (by simp) w
  rw [pause]
  split
  · exact ⟨false, hpause⟩
  · rename_i cancels rest _
    have hnext : (w.emit .pause).Shows [] { w.emit .pause with pauses := rest } := shows_nil rfl rfl
    exact ⟨cancels, hpause.append (hnext.append (shows_cue _ cancels))⟩

end World

namespace Client

section

variable {o : ClientOptions} {request : SubscriptionRequest} {body : Bytes}
  {subscriber : Subscriber} {s s' : Standing} {standings : List Standing}
  {result : EStateM.Result RpcError Client SubscriptionEnd}

/-- What an attempt leaves behind, and what comes after it before the next one or the end. -/
theorem shows_attempt {t : Tally} {c c' : Client} {d : Decision} {w : World}
    (h : attempt o request body subscriber t c = (d, c')) (hw : c'.world.Inside w) :
    ∃ new, c.world.Shows (.attempt :: new) w ∧ ∀ e ∈ new, e.isLooping = false := by
  have hstart : c.world.Shows [.attempt] (c.note .attempt).world :=
    World.shows_emit (by simp) c.world
  have hrun := inside_runStream request body subscriber c
  rw [← attempt_snd o request body subscriber t c, h] at hrun
  obtain ⟨new, hshows, hnew⟩ := hrun.trans hw
  exact ⟨new, hstart.append hshows, hnew⟩

theorem not_mem_of_not_isLooping {new : List Event} (h : ∀ e ∈ new, e.isLooping = false) :
    .attempt ∉ new ∧ .pause ∉ new :=
  ⟨fun hmem => Bool.noConfusion (h _ hmem), fun hmem => Bool.noConfusion (h _ hmem)⟩

/-- The pause after an attempt belongs to it. -/
theorem shows_attempt_pause {t : Tally} {c c' : Client} {d : Decision}
    (h : attempt o request body subscriber t c = (d, c')) :
    ∃ new, c.world.Shows (.attempt :: new) c'.world.pause ∧ .attempt ∉ new := by
  obtain ⟨new, hshows, hnew⟩ := shows_attempt h (World.Signals.refl _).inside
  obtain ⟨cancels, hpause⟩ := c'.world.shows_pause
  refine ⟨new ++ .pause :: Event.ofCue cancels, hshows.append hpause, ?_⟩
  rw [List.mem_append, List.mem_cons]
  rintro (hmem | hmem | hmem)
  · exact (not_mem_of_not_isLooping hnew).1 hmem
  · cases hmem
  · cases cancels <;> simp [Event.ofCue] at hmem

/-- A turn of the loop starts one attempt. -/
theorem Resumes.shows (h : Resumes o request body subscriber s s') :
    ∃ new, s.client.world.Shows (.attempt :: new) s'.client.world ∧ .attempt ∉ new := by
  cases h with
  | @follow _ _ _ c' targets _ h =>
      obtain ⟨new, hshows, hnew⟩ := shows_attempt h
        (signals_followRedirect request.uri targets c').inside
      exact ⟨new, hshows, (not_mem_of_not_isLooping hnew).1⟩
  | @renew _ _ _ c' _ h =>
      obtain ⟨new, hshows, hnew⟩ := shows_attempt h (signals_setAuthenticated c' false).inside
      exact ⟨new, hshows, (not_mem_of_not_isLooping hnew).1⟩
  | @reconnect _ _ _ c' _ h _ =>
      obtain ⟨new, hshows, hnew⟩ := shows_attempt_pause h
      obtain ⟨more, hmore, hquiet⟩ :=
        (signals_refreshEndpoints { c' with world := c'.world.pause }).inside
      refine ⟨new ++ more, hshows.append hmore, ?_⟩
      rw [List.mem_append]
      rintro (hmem | hmem)
      · exact hnew hmem
      · exact (not_mem_of_not_isLooping hquiet).1 hmem

theorem Ends.obeys (h : Ends o request body subscriber s result) :
    ∃ events, s.client.world.Shows events (finalState result).world ∧
      Obeys (attempts request body subscriber [s]) events (outcome result) := by
  have hattempts (hdown : s.client.world.cancelled = false) :
      attempts request body subscriber [s] = [s.attempted request body subscriber] := by
    simp [attempts, hdown]
  cases h with
  | @cancelled t c hup =>
      have hnone : attempts request body subscriber [⟨t, c⟩] = [] := by simp [attempts, hup]
      rw [hnone]
      exact ⟨[], World.shows_nil rfl rfl, .nil⟩
  | done hdown h | failed hdown h =>
      obtain ⟨new, hshows, hnew⟩ := shows_attempt h (World.Signals.refl _).inside
      obtain ⟨hattempt, hpause⟩ := not_mem_of_not_isLooping hnew
      rw [hattempts hdown]
      exact ⟨_, hshows, .single hattempt fun hmem => absurd hmem hpause⟩
  | paused hdown h _ =>
      obtain ⟨new, hshows, hnew⟩ := shows_attempt_pause h
      rw [hattempts hdown]
      exact ⟨_, hshows, .single hnew fun _ => rfl⟩

/-- Nothing is attempted where the flag is up. -/
theorem Course.attempts_eq_nil
    (h : Course o request body subscriber (s :: standings) result)
    (hup : s.client.world.cancelled = true) :
    attempts request body subscriber (s :: standings) = [] := by
  cases h with
  | last => simp [attempts, hup]
  | resumed hstep => cases hup.symm.trans hstep.uncancelled

theorem Course.obeys (h : Course o request body subscriber (s :: standings) result) :
    ∃ events, s.client.world.Shows events (finalState result).world ∧
      Obeys (attempts request body subscriber (s :: standings)) events (outcome result) := by
  generalize hl : s :: standings = l at h
  induction h generalizing s standings with
  | last hends =>
      cases hl
      exact hends.obeys
  | @resumed s s' rest result hstep hcourse ih =>
      cases hl
      obtain ⟨more, hmore, hobeys⟩ := ih rfl
      obtain ⟨new, hshows, hnew⟩ := hstep.shows
      have hattempts : attempts request body subscriber (s :: s' :: rest) =
          s.attempted request body subscriber :: attempts request body subscriber (s' :: rest) := by
        simp [attempts, hstep.uncancelled]
      rw [hattempts]
      refine ⟨_, hshows.append hmore, .cons hnew (fun hup => hcourse.attempts_eq_nil ?_) hobeys⟩
      exact hshows.cancelled.2 (.inr (List.mem_cons_of_mem _ hup))

end

end Client

/-! ## Runs -/

/-- How a subscription meets the flag. The events between which it goes up are those it leaves
behind, and its attempts are told by them. -/
structure Interrupted (o : ClientOptions) (attempts : List Attempt) (events : List Event)
    (result : Except RpcError SubscriptionEnd) : Prop where
  started : events.count .attempt = attempts.length
  /-- No attempt is started once the flag went up. The subscription ends as cancelled, unless there
  is a reason to give up in the attempt that is in progress. -/
  stopped : ∀ before after, events = before ++ .cancel :: after → .attempt ∉ after ∧
    (result = .ok .cancelled ∨ ∃ front a e, attempts = front ++ [a] ∧
      Concedes o (sinceEvent (front ++ [a])) a e ∧ result = .error e)
  /-- A reason to give up in the last attempt is what the subscription ends with. -/
  surfaces : ∀ front a e, attempts = front ++ [a] →
    Concedes o (sinceEvent (front ++ [a])) a e → result = .error e
  /-- A subscription that ends in a pause is cancelled. -/
  resting : ∀ before after, events = before ++ .pause :: after → .attempt ∉ after →
    result = .ok .cancelled

namespace Client

/-- Once the flag is up a subscription starts no further attempt. It ends as cancelled, unless the
attempt in progress ends with a failure that is not got over or with the one setback, redirect or
challenge that is too many: then it ends with that. If the flag is up from the start nothing happens
at all. -/
theorem subscribe_interrupted (request : SubscriptionRequest) (subscriber : Subscriber)
    (c : Client) : ∃ (standings : List Standing) (events : List Event),
      standings.head? = some ⟨.zero, { c with delivered := [] }⟩ ∧
      Course c.options request (payloadBytes request.payload) subscriber standings
        (subscriptionLoop c.options request (payloadBytes request.payload) subscriber .zero
          { c with delivered := [] }) ∧
      (finalState (subscribe request subscriber c)).world.trace = c.world.trace ++ events ∧
      Interrupted c.options (attempts request (payloadBytes request.payload) subscriber standings)
        events (outcome (subscribe request subscriber c)) ∧
      (c.world.cancelled = true →
        events = [] ∧ outcome (subscribe request subscriber c) = .ok .cancelled) := by
  obtain ⟨standings, hcourse⟩ := course_subscriptionLoop c.options request
    (payloadBytes request.payload) subscriber .zero { c with delivered := [] }
  obtain ⟨houtcome, -, hworld⟩ := subscribe_spec request subscriber c
  have hendures : Endures c.options [] _ _ := hcourse.endures (Tally.counts_zero c.options)
  obtain ⟨events, hshows, hobeys⟩ := hcourse.obeys
  rw [← houtcome] at hendures hobeys
  rw [← hworld] at hshows
  refine ⟨_, events, rfl, hcourse, hshows.trace, ?_, fun hup => ?_⟩
  · refine ⟨hobeys.started, fun before after hsplit => ⟨hobeys.stopped before after hsplit, ?_⟩,
      fun front a e hlast hconcedes => (hendures.ends front a [] e hlast hconcedes).2,
      hobeys.resting⟩
    cases hresult : outcome (subscribe request subscriber c) with
    | ok done => exact .inl rfl
    | error e =>
        obtain ⟨front, a, hlast, hconcedes⟩ := hendures.failed e hresult
        exact .inr ⟨front, a, e, hlast, hconcedes, rfl⟩
  · exact hobeys.idle (hcourse.attempts_eq_nil hup)

end Client

end ClusterRpc
