import ClusterRpc.Proofs.Rearrangement
import ClusterRpc.Proofs.Signals

/-!
# Records that are handed over once the flag is up

A subscription looks at the flag before each read and after each record. So the flag stops it at
once, unless it goes up during a read that brings octets: then the first record among them is still
handed over.
-/

namespace ClusterRpc

/-! ## Events after the flag -/

/-- How a run of events goes on after the flag went up: nothing is handed over any more, or the flag
went up during a read that brings octets, and one record at most is handed over. -/
inductive Overruns : List Event → Prop
  | stopped {after : List Event} : handed after = [] → Overruns after
  | arriving {ups : Nat} {bytes : Bytes} {rest : List Event} : (handed rest).length ≤ 1 →
      Overruns (List.replicate ups .cancel ++ .read bytes :: rest)

/-- Wherever the flag goes up among the events, hardly anything is handed over after that. -/
def Halting (events : List Event) : Prop :=
  ∀ before after, events = before ++ .cancel :: after → Overruns after

theorem Overruns.append {after more : List Event} (h : Overruns after) (hmore : handed more = []) :
    Overruns (after ++ more) := by
  cases h with
  | stopped hafter => exact .stopped (by rw [handed_append, hafter, hmore]; rfl)
  | arriving hrest =>
      rw [List.append_assoc, List.cons_append]
      apply Overruns.arriving
      rwa [handed_append, hmore, List.append_nil]

theorem halting_of_handed {events : List Event} (h : handed events = []) : Halting events := by
  rintro before after rfl
  apply Overruns.stopped
  rw [handed_append, List.append_eq_nil_iff] at h
  exact h.2

/-- An event that is not in the first part is in the second one. -/
theorem split_of_not_mem {α : Type} {e : α} {front back before after : List α} (he : e ∉ front)
    (h : front ++ back = before ++ e :: after) : ∃ middle, back = middle ++ e :: after := by
  rcases split_append h with ⟨rest, rfl, -⟩ | ⟨middle, -, hback⟩
  · exact absurd (List.mem_append_right before List.mem_cons_self) he
  · exact ⟨middle, hback⟩

theorem Halting.append {new more : List Event} (h : Halting new) (k : Halting more)
    (hstop : .cancel ∈ new → handed more = []) : Halting (new ++ more) := by
  intro before after hsplit
  rcases split_append hsplit with ⟨rest, rfl, rfl⟩ | ⟨middle, -, hmore⟩
  · have hmem : Event.cancel ∈ before ++ .cancel :: rest :=
      List.mem_append_right before List.mem_cons_self
    exact (h before rest rfl).append (hstop hmem)
  · exact k middle after hmore

/-- What a read brings may be followed by one record if the flag went up during the read. -/
theorem halting_of_read {ups : Nat} {bytes : Bytes} {rest : List Event}
    (hups : ups ≠ 0 → (handed rest).length ≤ 1) (hrest : Halting rest) :
    Halting (List.replicate ups .cancel ++ .read bytes :: rest) := by
  induction ups with
  | zero =>
      intro before after hsplit
      obtain ⟨middle, hback⟩ := split_of_not_mem (by simp : Event.cancel ∉ [.read bytes]) hsplit
      exact hrest middle after hback
  | succ ups ih =>
      have hone := hups (Nat.succ_ne_zero ups)
      intro before after hsplit
      cases before with
      | nil =>
          obtain ⟨-, rfl⟩ := List.cons.inj hsplit
          exact .arriving hone
      | cons e before =>
          obtain ⟨-, hrest⟩ := List.cons.inj hsplit
          exact ih (fun _ => hone) before after hrest

/-! ## Runs that stop for the flag -/

/-- Nothing is handed over while the flag is up, and hardly anything after it went up. -/
def World.Halts (w w' : World) : Prop :=
  ∃ new, w.Shows new w' ∧ (w.cancelled = true → handed new = []) ∧ Halting new

namespace World

variable {u v w : World}

theorem Shows.halts {new : List Event} (h : v.Shows new w) (hnew : handed new = []) : v.Halts w :=
  ⟨new, h, fun _ => hnew, halting_of_handed hnew⟩

theorem Signals.halts (h : v.Signals w) : v.Halts w := by
  obtain ⟨new, hshows, hnew⟩ := h
  exact hshows.halts (handed_of_not_isStreaming hnew)

theorem Halts.trans (h : u.Halts v) (k : v.Halts w) : u.Halts w := by
  obtain ⟨new, hshows, hup, hhalting⟩ := h
  obtain ⟨more, hshows', hup', hhalting'⟩ := k
  refine ⟨new ++ more, hshows.append hshows', ?_, hhalting.append hhalting' ?_⟩
  · intro hcancelled
    rw [handed_append, hup hcancelled, hup' (hshows.cancelled.2 (.inl hcancelled))]
    rfl
  · intro hmem
    exact hup' (hshows.cancelled.2 (.inr hmem))

theorem halts_pause (w : World) : w.Halts w.pause := by
  have hpause : w.Shows [.pause] (w.emit .pause) := shows_emit (by simp) w
  rw [pause]
  split
  · exact hpause.halts rfl
  · rename_i cancels rest _
    have hnext : (w.emit .pause).Signals { w.emit .pause with pauses := rest } := .of_eq rfl rfl
    exact (hpause.halts rfl).trans (hnext.trans (signals_cue _ cancels)).halts

end World

namespace Client

section

variable {subscriber : Subscriber} {c c' : Client} {w : World}

theorem shows_handOver (subscriber : Subscriber) (record : Record) (c : Client) :
    c.world.Shows (.deliver record :: Event.ofCue (subscriber (c.delivered ++ [record])))
      (c.handOver subscriber record).world := by
  have hdeliver : c.world.Shows [.deliver record] (c.world.emit (.deliver record)) :=
    World.shows_emit (by simp) c.world
  exact hdeliver.append (World.shows_cue _ _)

/-- The flag is looked at after each record: only one of them is handed over if it is up, and none
after it went up. -/
theorem shows_handOverAll (subscriber : Subscriber) (records : List (Except RpcError Record))
    (c : Client) : ∃ new, c.world.Shows new (handOverAll subscriber records c).2.world ∧
      (c.world.cancelled = true → (handed new).length ≤ 1) ∧
      ∀ before after, new = before ++ .cancel :: after → after = [] := by
  have hlast (record : Record) (cancels : Bool) (before after : List Event)
      (hsplit : .deliver record :: Event.ofCue cancels = before ++ .cancel :: after) :
      after = [] := by
    obtain ⟨middle, hback⟩ := split_of_not_mem (by simp : Event.cancel ∉ [.deliver record]) hsplit
    cases cancels with
    | false => simp at hback
    | true =>
        have hnil : middle = [] ∧ after = [] := by
          simpa [Event.ofCue, List.cons_eq_append_iff] using hback
        exact hnil.2
  have hone (record : Record) (cancels : Bool) :
      (handed (.deliver record :: Event.ofCue cancels)).length ≤ 1 := by
    cases cancels <;> simp [handed, Event.ofCue]
  fun_induction handOverAll subscriber records c with
  | case1 c | case2 e rest c =>
      exact ⟨[], World.shows_nil rfl rfl, fun _ => Nat.zero_le _, by simp⟩
  | case3 record rest c | case4 record rest c =>
      exact ⟨_, shows_handOver subscriber record c, fun _ => hone _ _, hlast _ _⟩
  | case5 record rest c handed' hverdict hdown ih =>
      obtain ⟨more, hshows, -, hmore⟩ := ih
      have hfirst := shows_handOver subscriber record c
      -- The flag is still down after the record.
      obtain ⟨hstart, hnew⟩ := not_or.1 (mt hfirst.cancelled.2 hdown)
      refine ⟨_, hfirst.append hshows, fun hup => absurd hup hstart, ?_⟩
      intro before after hsplit
      obtain ⟨middle, hback⟩ := split_of_not_mem hnew hsplit
      exact hmore middle after hback

/-- What is read while the flag is down is handed over, up to one record if the flag goes up
meanwhile. -/
theorem halts_of_read {chunk : Bytes} {l : Link} {handle : Handle} {block : Option Bytes}
    {session : Session} {records : List (Except RpcError Record)}
    {result : Option (Except RpcError StreamOutcome)} (hdown : ¬c.world.cancelled = true)
    (hr : Link.read readChunk c.link = .ok chunk l)
    (hd : handOverAll subscriber records ((c.withLink l).learn handle block session) =
      (result, c')) : c.world.Halts c'.world := by
  obtain ⟨ups, hread⟩ := Link.shows_read readChunk c.link
  have hlearn := shows_learn (c.withLink l) handle block session
  obtain ⟨new, hhanded, hone, hlast⟩ := shows_handOverAll subscriber records
    ((c.withLink l).learn handle block session)
  rw [hr] at hread
  rw [hd] at hhanded
  refine ⟨_, hread.append (hlearn.append hhanded), fun hup => absurd hup hdown, ?_⟩
  have hblock : Event.cancel ∉ (block.map Event.learn).toList := by cases block <;> simp
  have hnothing : handed (block.map Event.learn).toList = [] := by cases block <;> rfl
  rw [show Link.readEvents ups _ = List.replicate ups .cancel ++ [.read chunk] from rfl,
    List.append_assoc, List.singleton_append]
  apply halting_of_read
  · intro hups
    have hup : ((c.withLink l).learn handle block session).world.cancelled = true := by
      rw [hlearn.cancelled]
      refine .inl (hread.cancelled.2 (.inr ?_))
      exact List.mem_append_left _ (List.mem_replicate.2 ⟨hups, rfl⟩)
    rw [handed_append, hnothing, List.nil_append]
    exact hone hup
  · intro before after hsplit
    obtain ⟨middle, hback⟩ := split_of_not_mem hblock hsplit
    obtain rfl := hlast middle after hback
    exact .stopped rfl

theorem halts_pump (subscriber : Subscriber) (stream : RecordStream) (c : Client) :
    c.world.Halts (finalState (pump subscriber stream c)).world := by
  have hread (c : Client) : c.world.Halts (finalState (Link.read readChunk c.link)).world :=
    (World.passage_signals.read readChunk c.link).halts
  fun_induction pump subscriber stream c with
  | case1 stream c => exact (World.Signals.refl _).halts
  | case2 stream c _ e l hr _ ih =>
      have hread := hread c
      rw [hr] at hread
      exact hread.trans ih
  | case3 stream c _ e l hr | case4 stream c _ l hr | case5 stream c _ chunk l hr =>
      have hread := hread c
      rwa [hr] at hread
  | case6 stream c hdown chunk l hr _ handle _ fed drained c' c'' hd ih =>
      exact (halts_of_read hdown hr hd).trans ih
  | case7 stream c hdown chunk l hr _ handle _ fed drained c' outcome c'' hd
  | case8 stream c hdown chunk l hr _ handle _ fed drained c' e c'' hd =>
      exact halts_of_read hdown hr hd

theorem resuming_halts (request : SubscriptionRequest) (body : Bytes) (subscriber : Subscriber) :
    Resuming request body subscriber fun c => w.Halts c.world where
  runStream := by
    have hclose (c : Client) (h : w.Halts c.world) : w.Halts c.hangUp.world :=
      h.trans (World.passage_signals.hangUp c).halts
    have hsignals {α : Type} {x : Action α} (hx : ∀ v : World, Keeps (fun c => v.Signals c.world) x) :
        Keeps (fun c => w.Halts c.world) x :=
      keeps_of_finalState fun c h => h.trans ((hx c.world).finalState (.refl _)).halts
    refine keeps_runStream (C := fun c => w.Halts c.world) (S := fun c => w.Halts c.world)
      (F := fun _ c => w.Halts c.world) ?_ ?_ ?_ ?_ ?_ ?_ hclose
    · intro c h
      have hattempt : c.world.Shows [.attempt] (c.note .attempt).world :=
        World.shows_emit (by simp) c.world
      exact h.trans (hattempt.halts rfl)
    · exact hsignals fun v => (exchanging_signals true).login
    · exact hsignals fun v => keeps_signals_ensureConnected true
    · exact hsignals fun v => World.passage_signals.frame request.uri body
    · exact fun frame => hsignals fun v => World.passage_signals.send frame
    · exact fun c h => h.trans (halts_pump subscriber .fresh c)
  followRedirect := fun targets c h => h.trans (signals_followRedirect request.uri targets c).halts
  logout := fun c h => h.trans (signals_setAuthenticated c false).halts
  pause := fun c h => h.trans (World.halts_pause c.world)
  refreshEndpoints := fun c h => h.trans (signals_refreshEndpoints c).halts

end

/-- A subscription stops for the flag. While the flag is up nothing is handed over. Once it went up
nothing is handed over any more, unless it went up during a read that brings octets: then at most
one more record is. -/
theorem subscribe_halts (request : SubscriptionRequest) (subscriber : Subscriber) (c : Client) :
    ∃ new, (finalState (subscribe request subscriber c)).world.trace = c.world.trace ++ new ∧
      (c.world.cancelled = true → handed new = []) ∧
      ∀ before after, new = before ++ .cancel :: after →
        handed after = [] ∨ ∃ ups bytes rest,
          after = List.replicate ups .cancel ++ .read bytes :: rest ∧ (handed rest).length ≤ 1 := by
  obtain ⟨-, -, hworld⟩ := subscribe_spec request subscriber c
  have hhalts : c.world.Halts (finalState (subscribe request subscriber c)).world := by
    rw [hworld]
    exact (resuming_halts request _ subscriber).loop c.options .zero _ (World.Signals.refl _).halts
  obtain ⟨new, hshows, hup, hhalting⟩ := hhalts
  refine ⟨new, hshows.trace, hup, ?_⟩
  intro before after hsplit
  cases hhalting before after hsplit with
  | stopped hafter => exact .inl hafter
  | arriving hrest => exact .inr ⟨_, _, _, rfl, hrest⟩

/-! ## A record that is handed over although the flag is up -/

theorem deliver_of_handOverAll (subscriber : Subscriber) {record : Record}
    {rest : List (Except RpcError Record)} {c c' : Client}
    {result : Option (Except RpcError StreamOutcome)}
    (h : handOverAll subscriber (.ok record :: rest) c = (result, c')) :
    ∃ more, c'.world.trace = c.world.trace ++ .deliver record :: more := by
  have hfirst := (shows_handOver subscriber record c).trace
  rw [handOverAll] at h
  split at h
  · cases h
    exact ⟨_, hfirst⟩
  · split at h
    · cases h
      exact ⟨_, hfirst⟩
    · obtain ⟨more, hmore⟩ :=
        (further_handOverAll subscriber rest (c.handOver subscriber record)).world.trace
      rw [h, hfirst, List.append_assoc, List.cons_append] at hmore
      exact ⟨_, hmore.symm⟩

/-- The flag goes up during a read that brings octets. -/
theorem read_of_cued {c : Client} {endpoint : String} {tls : Bool} {bytes : Bytes}
    {reads : List (Cued ReadStep)}
    (hc : c.channel = .connected endpoint ⟨tls, ⟨.data bytes, true⟩ :: reads, [], []⟩)
    (hroom : bytes.length ≤ readChunk) :
    ∃ l, Link.read readChunk c.link = .ok bytes l ∧
      l.world.trace = c.world.trace ++ [.cancel, .read bytes] := by
  simp only [link, hc, Link.read]
  rw [Link.readRetrying]
  simp only [Transport.read, hroom, if_true]
  exact ⟨_, rfl, by simp [World.cue, World.cancel, World.emit]⟩

/-- A record is handed over although the flag went up while its octets were read. -/
theorem deliver_of_pump (subscriber : Subscriber) {stream : RecordStream} {c : Client} {h : Handle}
    {endpoint : String} {tls : Bool} {bytes : Bytes} {reads : List (Cued ReadStep)}
    {record : Record} {rest : List (Except RpcError Record)}
    (hc : c.channel = .connected endpoint ⟨tls, ⟨.data bytes, true⟩ :: reads, [], []⟩)
    (hh : c.handle = some h) (hdown : c.world.cancelled = false) (hne : bytes ≠ [])
    (hroom : bytes.length ≤ readChunk)
    (hdrain : ((stream.feed bytes).drain h.session).1 = .ok record :: rest) :
    ∃ middle more, (finalState (pump subscriber stream c)).world.trace =
      c.world.trace ++ .cancel :: middle ++ .deliver record :: more := by
  obtain ⟨l, hread, hl⟩ := read_of_cued hc hroom
  -- What is left behind up to the record, whatever comes after it.
  have htrace {d d' : Client} {result : Option (Except RpcError StreamOutcome)}
      (hd : handOverAll subscriber ((stream.feed bytes).drain h.session).1
        ((c.withLink l).learn h (stream.feed bytes).block?
          ((stream.feed bytes).drain h.session).2.2) = (result, d)) (hfurther : Further d d') :
      ∃ middle more, d'.world.trace =
        c.world.trace ++ .cancel :: middle ++ .deliver record :: more := by
    rw [hdrain] at hd
    obtain ⟨more, hmore⟩ := deliver_of_handOverAll subscriber hd
    obtain ⟨further, hfurther⟩ := hfurther.world.trace
    rw [(shows_learn ..).trace, show (c.withLink l).world.trace = _ from hl] at hmore
    refine ⟨.read bytes :: ((stream.feed bytes).block?.map .learn).toList, more ++ further, ?_⟩
    rw [← hfurther, hmore]
    simp
  fun_cases pump subscriber stream c with
  | case1 hup => exact absurd (hdown.symm.trans hup) (by decide)
  | case2 _ e l' hr | case3 _ e l' hr => cases hread.symm.trans hr
  | case4 _ l' hr =>
      cases hread.symm.trans hr
      exact absurd rfl hne
  | case5 _ chunk l' hr _ hnone => cases hnone.symm.trans hh
  | case6 _ chunk l' hr _ handle hhandle fed drained c' c'' hd =>
      cases hread.symm.trans hr
      cases hhandle.symm.trans hh
      exact htrace hd (further_pump ..)
  | case7 _ chunk l' hr _ handle hhandle fed drained c' outcome c'' hd
  | case8 _ chunk l' hr _ handle hhandle fed drained c' e c'' hd =>
      cases hread.symm.trans hr
      cases hhandle.symm.trans hh
      exact htrace hd (.refl _)

theorem deliver_of_listening (request : SubscriptionRequest) (subscriber : Subscriber)
    {bytes : Bytes} {record : Record} {rest : List (Except RpcError Record)} (hne : bytes ≠ [])
    (hroom : bytes.length ≤ readChunk)
    (hdrain : ((RecordStream.fresh.feed bytes).drain .fresh).1 = .ok record :: rest) :
    ∃ before after, .deliver record ∈ after ∧
      (finalState (subscribe request subscriber (listening [⟨.data bytes, true⟩]))).world.trace =
        before ++ .cancel :: after := by
  obtain ⟨w, hdown, hopening⟩ :=
    opening_of_listening request (payloadBytes request.payload) [⟨.data bytes, true⟩]
  obtain ⟨middle, more, htrace⟩ := deliver_of_pump subscriber
    (c := { listening [⟨.data bytes, true⟩] with world := w }) rfl rfl hdown hne hroom hdrain
  obtain ⟨further, hfurther⟩ :=
    trace_of_opening (c := listening [⟨.data bytes, true⟩]) rfl hopening
  refine ⟨w.trace, middle ++ .deliver record :: more ++ further, by simp, ?_⟩
  rw [← hfurther, htrace]
  simp

/-- The first record of a read is handed over after the flag went up. -/
theorem handed_after_cancel :
    ¬ ∀ before after, (finalState (subscribe .events (fun _ => false)
        (listening [⟨.data (octets "\x7b\"event_class\":true\x7d\n\n"), true⟩]))).world.trace =
      before ++ .cancel :: after → handed after = [] := by
  have hdrain : ((RecordStream.fresh.feed
      (octets "\x7b\"event_class\":true\x7d\n\n")).drain .fresh).1 =
        [.ok (.event [("event_class", .bool true)])] := by decide +kernel
  obtain ⟨before, after, hdeliver, htrace⟩ := deliver_of_listening .events (fun _ => false)
    (by decide +kernel) (by decide +kernel) hdrain
  intro hall
  have hnone := hall before after htrace
  rw [handed, List.filterMap_eq_nil_iff] at hnone
  cases hnone _ hdeliver

end Client

end ClusterRpc
