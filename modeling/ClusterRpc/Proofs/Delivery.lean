import ClusterRpc.Proofs.Hearing
import ClusterRpc.Proofs.Row

/-!
# What a subscription delivers

Each stream connection contributes the records in the octets that are heard on it, up to the first
one that ends it. One connection after the other, and nothing else, is handed over.
-/

namespace ClusterRpc

namespace RecordStream

/-- What a stream gives does not depend on the session. -/
theorem drain_fst (stream : RecordStream) (session session' : Session) :
    (stream.drain session).1 = (stream.drain session').1 := by
  obtain ⟨buffer, pending⟩ := stream
  cases pending with
  | false => rfl
  | true =>
      rw [drain_of_pending, drain_of_pending]
      cases Opening.of buffer.bytes <;> rfl

end RecordStream

/-! ## Whole records -/

/-- A record is what a stretch of the octets says that is followed by a terminator. -/
def LiesIn (octets : Bytes) (record : Except RpcError Record) : Prop :=
  ∃ before text terminator after, octets = before ++ (text ++ (terminator ++ after)) ∧
    IsTerminator terminator ∧ record = (Reply.decode text).map Record.classify

section

variable {s t text : Bytes} {record : Except RpcError Record}

theorem LiesIn.of_suffix (h : LiesIn s record) (hs : s <:+ t) : LiesIn t record := by
  obtain ⟨front, rfl⟩ := hs
  obtain ⟨before, text, terminator, after, rfl, hrest⟩ := h
  exact ⟨front ++ before, text, terminator, after, by rw [List.append_assoc], hrest⟩

/-- A record that is taken from a buffer was followed by a terminator there. -/
theorem ReceiveBuffer.takeRecord?_spec {b rest : ReceiveBuffer}
    (h : b.takeRecord? = some (text, rest)) : ∃ before terminator,
      b.bytes = before ++ (text ++ (terminator ++ rest.bytes)) ∧ IsTerminator terminator := by
  obtain ⟨terminator, hcut, hterminator, -⟩ := Boundary.cut_spec (cut_of_takeRecord? h)
  obtain ⟨before, hbefore⟩ := unmarked_suffix b.bytes
  exact ⟨before, terminator, by rw [← hcut, hbefore], hterminator⟩

theorem ReceiveBuffer.suffix_of_takeRecord? {b rest : ReceiveBuffer}
    (h : b.takeRecord? = some (text, rest)) : rest.bytes <:+ b.bytes := by
  obtain ⟨before, terminator, hb, -⟩ := takeRecord?_spec h
  exact ⟨before ++ (text ++ terminator), by simp only [hb, List.append_assoc]⟩

namespace RecordStream

theorem nextRecord_suffix (b : ReceiveBuffer) : (nextRecord b).2.bytes <:+ b.bytes := by
  fun_induction nextRecord b with
  | case1 => exact List.suffix_rfl
  | case2 b text rest h _ _ ih => exact ih.trans (ReceiveBuffer.suffix_of_takeRecord? h)
  | case3 b text rest h => exact ReceiveBuffer.suffix_of_takeRecord? h

theorem liesIn_of_nextRecord {b : ReceiveBuffer} (h : (nextRecord b).1 = some record) :
    LiesIn b.bytes record := by
  fun_induction nextRecord b with
  | case1 => cases h
  | case2 b text rest htake _ _ ih =>
      exact (ih h).of_suffix (ReceiveBuffer.suffix_of_takeRecord? htake)
  | case3 b text rest htake =>
      obtain ⟨before, terminator, hb, hterminator⟩ := ReceiveBuffer.takeRecord?_spec htake
      exact ⟨before, text, terminator, rest.bytes, hb, hterminator, (Option.some.inj h).symm⟩

theorem liesIn_of_drainBuffer {b : ReceiveBuffer} (h : record ∈ (drainBuffer b).1) :
    LiesIn b.bytes record := by
  fun_induction drainBuffer b with
  | case1 => cases h
  | case2 b first hfirst _ others ih =>
      rcases List.mem_cons.1 h with rfl | h
      · exact liesIn_of_nextRecord hfirst
      · exact (ih h).of_suffix (nextRecord_suffix b)

end RecordStream

theorem suffix_of_findBlankLine {n k : Nat} {body : Bytes}
    (h : findBlankLine n s = some (k, body)) : body <:+ s := by
  obtain ⟨head, ending, rfl, -⟩ := findBlankLine_spec h
  exact ⟨head ++ ending, List.append_assoc ..⟩

/-- The records that a fresh stream gives, all octets being there at once. -/
def decoded (s : Bytes) : List (Except RpcError Record) :=
  ((RecordStream.fresh.feed s).drain .fresh).1

/-- Only whole records are decoded. -/
theorem liesIn_of_decoded (h : record ∈ decoded s) : LiesIn s record := by
  rw [decoded, RecordStream.fresh, RecordStream.feed, RecordStream.drain_of_pending,
    ReceiveBuffer.append, ReceiveBuffer.empty, List.nil_append] at h
  cases hs : Opening.of s with
  | undecided =>
      rw [hs] at h
      cases h
  | headless =>
      rw [hs] at h
      exact RecordStream.liesIn_of_drainBuffer h
  | headed head body =>
      rw [hs] at h
      obtain ⟨-, hsplit⟩ := Opening.of_eq_headed_iff.1 hs
      rw [splitHead, Option.map_eq_some_iff] at hsplit
      obtain ⟨found, hfound, hsplit⟩ := hsplit
      cases hsplit
      exact (RecordStream.liesIn_of_drainBuffer h).of_suffix (suffix_of_findBlankLine hfound)

/-- A malformed record that is reached ends the connection. -/
theorem conclusion_of_malformed {records : List Record} {e : RpcError}
    {rest : List (Except RpcError Record)} (h : ∀ record ∈ records, record.parting? = none) :
    conclusion (records.map .ok ++ .error e :: rest) = some (.error e) := by
  induction records with
  | nil => rfl
  | cons record records ih =>
      rw [List.forall_mem_cons] at h
      rw [List.map_cons, List.cons_append, conclusion, h.1, ih h.2]
      rfl

end

namespace Client

/-- A flag that is down in the end was down before. -/
theorem Further.uncancelled {c c' : Client} (h : Further c c')
    (hc : c'.world.cancelled = false) : c.world.cancelled = false := by
  cases hcancelled : c.world.cancelled with
  | false => rfl
  | true =>
      rw [h.world.cancelled hcancelled] at hc
      cases hc

/-! ## One attempt -/

/-- The octets that come on the connection that is open. -/
def incoming (c : Client) : Bytes :=
  match c.channel with
  | .connected _ t => t.heard.1
  | _ => []

/-- The octets that come on the stream connection of an attempt. There is none unless the request is
written. -/
def arriving (request : SubscriptionRequest) (body : Bytes) (c : Client) : Bytes :=
  match opening request body c with
  | .ok _ c' => c'.incoming
  | .error .. => []

/-- The records on the stream connection of an attempt. -/
def received (request : SubscriptionRequest) (body : Bytes) (c : Client) :
    List (Except RpcError Record) :=
  decoded (arriving request body c)

section

variable {request : SubscriptionRequest} {body : Bytes} {subscriber : Subscriber}
  {c c' : Client}

theorem connected_of_opening (h : opening request body c = .ok () c') :
    ∃ endpoint t handle, c'.channel = .connected endpoint t ∧ c'.handle = some handle := by
  simp only [opening, Bind.bind, EStateM.bind, modify_apply] at h
  rcases hl : logIn (c.note .attempt) with ⟨⟨⟩, c₁⟩ | ⟨e, c₁⟩ <;> rw [hl] at h
  · dsimp only at h
    rcases hr : ensureConnected true c₁ with ⟨⟨⟩, c₂⟩ | ⟨e, c₂⟩ <;> rw [hr] at h
    · have hopen := isConnected_of_ensureConnected hr
      cases hchannel : c₂.channel with
      | connected endpoint t =>
          obtain ⟨handle, hh⟩ := handle_of_writeRequest h
          obtain ⟨writes, flushes, world, rfl, -⟩ := writeRequest_ok hchannel h
          exact ⟨endpoint, _, handle, rfl, hh⟩
      | disconnected | connecting => rw [hchannel] at hopen; cases hopen
    · cases h
  · cases h

/-- Once the request is written, what comes of an attempt depends on what is heard. -/
theorem runStream_heeds (h : opening request body c = .ok () c')
    (huncancelled : (finalState (runStream request body subscriber c)).world.cancelled = false) :
    ∃ endpoint t handle c'', c'.channel = .connected endpoint t ∧ c'.handle = some handle ∧
      Heeds .fresh endpoint handle t.heard c' (outcome (runStream request body subscriber c)) c'' ∧
      finalState (runStream request body subscriber c) = c''.hangUp := by
  obtain ⟨endpoint, t, handle, hchannel, hh⟩ := connected_of_opening h
  obtain ⟨houtcome, hfinal⟩ := closing_spec (pump subscriber .fresh) c'
  rw [runStream_of_opened h, hfinal] at huncancelled
  rw [runStream_of_opened h, houtcome, hfinal]
  exact ⟨endpoint, t, handle, _, hchannel, hh, pump_heeds hchannel hh
    (RecordStream.drain_fresh handle.session)
    ((onward_hangUp _).further.uncancelled huncancelled), rfl⟩

/-- The flag stays down in an attempt where neither a read of the stream nor the subscriber raises
it. -/
theorem calm_runStream {endpoint : String} {t : Transport}
    (hs : ∀ records, subscriber records = false) (h : opening request body c = .ok () c')
    (hc : c'.channel = .connected endpoint t) (ht : t.Calm)
    (hcancelled : c'.world.cancelled = false) :
    (finalState (runStream request body subscriber c)).world.cancelled = false := by
  have hhung (c : Client) : c.hangUp.world.cancelled = c.world.cancelled := by
    rcases c with ⟨options, channel⟩
    cases channel <;> rfl
  rw [runStream_of_opened h, (closing_spec (pump subscriber .fresh) c').2, hhung]
  exact calm_pump hs .fresh hc ht hcancelled

/-- What an attempt hands over are the records on its stream connection. One that ends the
connection ends the attempt. -/
theorem runStream_delivers
    (huncancelled : (finalState (runStream request body subscriber c)).world.cancelled = false) :
    (finalState (runStream request body subscriber c)).delivered =
        c.delivered ++ heeded (received request body c) ∧
      ∀ result, conclusion (received request body c) = some result →
        outcome (runStream request body subscriber c) = result := by
  have honward : Onward c (finalState (opening request body c)) :=
    (keeps_onward_opening request body).finalState (.refl c)
  rcases hopening : opening request body c with ⟨⟨⟩, c'⟩ | ⟨e, c'⟩ <;> rw [hopening] at honward
  · obtain ⟨endpoint, t, handle, c'', hchannel, -, ⟨hresult, channel, world, hclient, -⟩, hfinal⟩ :=
      runStream_heeds hopening huncancelled
    have hreceived : received request body c =
        ((RecordStream.fresh.feed t.heard.1).drain handle.session).1 := by
      simp only [received, arriving, hopening, incoming, hchannel, decoded]
      exact RecordStream.drain_fst ..
    rw [hreceived]
    refine ⟨?_, fun result hconclusion => ?_⟩
    · have hsame : c'.delivered = c.delivered := honward.delivered
      rw [hfinal, (onward_hangUp c'').delivered, hclient, hsame]
    · rw [hresult, hconclusion]
      rfl
  · have hreceived : received request body c = [] := by
      simp only [received, arriving, hopening]
      rfl
    rw [hreceived, runStream_of_unopened hopening]
    refine ⟨?_, by rintro result ⟨⟩⟩
    rw [heeded, List.append_nil]
    exact honward.delivered

end

/-! ## All attempts -/

section

variable {o : ClientOptions} {request : SubscriptionRequest} {body : Bytes}
  {subscriber : Subscriber} {s : Standing} {standings : List Standing}
  {result : EStateM.Result RpcError Client SubscriptionEnd}

theorem Ends.further (h : Ends o request body subscriber s result) :
    Further s.client (finalState result) := by
  have hrun := further_runStream request body subscriber s.client
  cases h with
  | cancelled _ => exact .refl _
  | done _ h | failed _ h =>
      rw [← attempt_snd o, h] at hrun
      exact hrun
  | paused _ h _ =>
      rw [← attempt_snd o, h] at hrun
      exact hrun.trans ⟨rfl, List.prefix_rfl, World.onward_pause _, .inl⟩

theorem Course.further (h : Course o request body subscriber (s :: standings) result) :
    Further s.client (finalState result) := by
  obtain ⟨s', hreach, hends⟩ := h.ends
  exact (further_resumes hreach).trans hends.further

/-- What a first attempt leaves behind stays. -/
theorem Course.further_first (h : Course o request body subscriber (s :: standings) result)
    (hdown : s.client.world.cancelled = false) :
    Further (finalState (runStream request body subscriber s.client)) (finalState result) := by
  cases h with
  | last hends =>
      cases hends with
      | cancelled hup => exact absurd (hdown.symm.trans hup) (by decide)
      | done _ h | failed _ h =>
          rw [← attempt_snd o, h]
          exact .refl _
      | paused _ h _ =>
          rw [← attempt_snd o, h]
          exact ⟨rfl, List.prefix_rfl, World.onward_pause _, .inl⟩
  | resumed hstep hcourse => exact hstep.onward.further.trans hcourse.further

/-- A malformed record is not got over. -/
theorem Decision.of_malformed (o : ClientOptions) (t : Tally) (reason : String) :
    Decision.of o t (.error (.malformedReply reason)) =
      .finish (.error (.malformedReply reason)) := by
  simp [Decision.of, RpcError.kind, RpcError.isReconnectable]

theorem Resumes.delivers {s' : Standing} (h : Resumes o request body subscriber s s')
    (huncancelled : s'.client.world.cancelled = false) :
    s'.client.delivered = s.client.delivered ++ heeded (received request body s.client) ∧
      ∀ reason, conclusion (received request body s.client) ≠
        some (.error (.malformedReply reason)) := by
  have hstays := h.onward.further.uncancelled huncancelled
  obtain ⟨hdelivered, hends⟩ := runStream_delivers hstays
  refine ⟨h.onward.delivered.trans hdelivered, fun reason hreason => ?_⟩
  have houtcome := hends _ hreason
  cases h with
  | follow _ h | renew _ h | reconnect _ h _ =>
      rw [attempt_eq, houtcome, Decision.of_malformed] at h
      cases h

theorem Ends.delivers (h : Ends o request body subscriber s result)
    (huncancelled : (finalState result).world.cancelled = false) :
    (finalState result).delivered =
        s.client.delivered ++ heeded (received request body s.client) ∧
      ∀ reason, conclusion (received request body s.client) =
          some (.error (.malformedReply reason)) →
        outcome result = .error (.malformedReply reason) := by
  cases h with
  | cancelled hcancelled | paused _ _ hcancelled =>
      exact absurd (hcancelled.symm.trans huncancelled) (by decide)
  | done _ h | failed _ h =>
      rw [attempt_eq] at h
      obtain ⟨hdecision, hfinal⟩ := Prod.ext_iff.1 h
      obtain rfl := hfinal
      obtain ⟨hdelivered, hends⟩ := runStream_delivers huncancelled
      refine ⟨hdelivered, fun reason hreason => ?_⟩
      simp only [hends _ hreason, Decision.of_malformed, Decision.finish.injEq] at hdecision
      first
        | cases hdecision; rfl
        | cases hdecision

/-- What a subscription hands over are the records of its attempts, one after the other. -/
theorem Course.delivers (h : Course o request body subscriber (s :: standings) result)
    (huncancelled : (finalState result).world.cancelled = false) :
    (finalState result).delivered = s.client.delivered ++
      (s :: standings).flatMap fun s => heeded (received request body s.client) := by
  generalize hl : s :: standings = l at h
  induction h generalizing s standings with
  | last hends =>
      cases hl
      rw [(hends.delivers huncancelled).1, List.flatMap_singleton]
  | @resumed _ s' rest _ hstep hcourse ih =>
      cases hl
      have hnext := (hstep.delivers (hcourse.further.uncancelled huncancelled)).1
      rw [ih huncancelled rfl, hnext, List.append_assoc]
      rfl

/-- A malformed record that is reached ends the subscription. -/
theorem Course.malformed {before after : List Standing} {records : List Record} {e : RpcError}
    {rest : List (Except RpcError Record)}
    (h : Course o request body subscriber (before ++ s :: after) result)
    (huncancelled : (finalState result).world.cancelled = false)
    (hreceived : received request body s.client = records.map .ok ++ .error e :: rest)
    (hquiet : ∀ record ∈ records, record.parting? = none) :
    after = [] ∧ outcome result = .error e ∧ ∃ reason, e = .malformedReply reason := by
  have hconclusion : conclusion (received request body s.client) = some (.error e) := by
    rw [hreceived, conclusion_of_malformed hquiet]
  obtain ⟨reason, rfl⟩ : ∃ reason, e = .malformedReply reason := by
    have hmem : .error e ∈ received request body s.client := by
      rw [hreceived]
      exact List.mem_append_right _ List.mem_cons_self
    exact RecordStream.malformed_of_drain hmem
  refine (and_assoc.1 ⟨?_, reason, rfl⟩)
  clear hreceived
  induction before with
  | nil =>
      cases h with
      | last hends => exact ⟨rfl, (hends.delivers huncancelled).2 reason hconclusion⟩
      | resumed hstep hcourse =>
          exact absurd hconclusion
            ((hstep.delivers (hcourse.further.uncancelled huncancelled)).2 reason)
  | cons s₀ before ih =>
      cases hrest : before ++ s :: after with
      | nil => simp at hrest
      | cons s' rest =>
          rw [List.cons_append, hrest] at h
          cases h with
          | resumed _ hcourse => exact ih (hrest ▸ hcourse)

/-- What the first attempt leaves behind stays. -/
theorem trace_of_first (request : SubscriptionRequest) (subscriber : Subscriber) {c : Client}
    (hdown : c.world.cancelled = false) :
    (finalState (runStream request (payloadBytes request.payload) subscriber
        { c with delivered := [] })).world.trace <+:
      (finalState (subscribe request subscriber c)).world.trace := by
  obtain ⟨standings, hcourse⟩ := course_subscriptionLoop c.options request
    (payloadBytes request.payload) subscriber .zero { c with delivered := [] }
  rw [(subscribe_spec request subscriber c).2.2]
  exact (hcourse.further_first hdown).world.trace

/-- What is left behind on the first stream connection stays. -/
theorem trace_of_opening {c c' : Client} (hdown : c.world.cancelled = false)
    (hopening : opening request (payloadBytes request.payload) { c with delivered := [] } =
      .ok () c') :
    (finalState (pump subscriber .fresh c')).world.trace <+:
      (finalState (subscribe request subscriber c)).world.trace := by
  have hfirst := trace_of_first request subscriber hdown
  rw [runStream_of_opened hopening, (closing_spec (pump subscriber .fresh) c').2] at hfirst
  exact (onward_hangUp _).world.trace.trans hfirst

end

end Client

end ClusterRpc
