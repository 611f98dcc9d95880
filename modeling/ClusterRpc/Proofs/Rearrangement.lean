import ClusterRpc.Proofs.Streams

/-!
# Subscriptions whose reads are cut differently

Two runs of a subscription that hear the same on each stream connection do the same, however the
octets are cut there and whatever timeouts and interrupted reads come among them.
-/

namespace ClusterRpc

namespace Client

/-! ## Attempts in which the same is heard -/

/-- On the named connections the same octets come, cut differently and with other timeouts and
interrupted reads among them, before the reads go on alike. On all other ones there is the same to
read. -/
def rearranged (streams : List Nat) : Likeness := fun n tls reads reads' =>
  if n ∈ streams then
    ∃ s tail, Carries (Link.retryLimit tls) tail (Link.retryLimit tls) s reads ∧
      Carries (Link.retryLimit tls) tail (Link.retryLimit tls) s reads'
  else reads' = reads

theorem rearranged_of_not_mem {streams : List Nat} {n : Nat} (h : n ∉ streams) :
    rearranged streams n = .same := by
  funext tls reads reads'
  exact if_neg h

/-- Whether a connection is among the named ones is all that counts. -/
theorem rearranged_congr {streams streams' : List Nat} {n : Nat}
    (h : n ∈ streams ↔ n ∈ streams') : rearranged streams n = rearranged streams' n := by
  funext tls reads reads'
  simp only [rearranged, h]

/-- The same is heard on connections that are alike. -/
theorem heard_of_rearranged {streams : List Nat} {n : Nat} {t u : Transport}
    (h : t.Like (rearranged streams n) u) : u.heard = t.heard := by
  obtain ⟨reads, rfl, h⟩ := h
  rw [rearranged] at h
  split at h
  · obtain ⟨s, tail, h, h'⟩ := h
    simp only [Transport.heard, hear_of_carries h, hear_of_carries h']
  · rw [h]

section

variable {request : SubscriptionRequest} {body : Bytes} {subscriber : Subscriber}
  {ns : List Nat} {c d : Client}

theorem Coupled.logIn (h : Coupled (rearranged ns) c d)
    (hafter : c.logsIn = true →
      ∀ n ∈ ns, n < (finalState (Client.logIn c)).world.dials.length) :
    Alike (rearranged ns) (Client.logIn c) (Client.logIn d) := by
  have hlogs : d.logsIn = c.logsIn := by simp only [logsIn, isAuthenticated, h.options, h.handle]
  cases hc : c.logsIn with
  | false =>
      rw [logIn_of_skipped hc, logIn_of_skipped (hlogs.trans hc)]
      exact ⟨rfl, h⟩
  | true =>
      have hlt := hafter hc
      rw [logIn_of_logsIn hc] at hlt ⊢
      rw [logIn_of_logsIn (hlogs.trans hc)]
      refine (couples_login (fun n hn => ?_) true).alike c d h (Nat.le_refl _)
      exact rearranged_of_not_mem fun hmem => absurd (hlt n hmem) (Nat.not_lt.2 hn)

theorem Coupled.opening (h : Coupled (rearranged ns) c d)
    (hafter : c.logsIn = true →
      ∀ n ∈ ns, n < (finalState (Client.logIn (c.note .attempt))).world.dials.length) :
    Alike (rearranged ns) (Client.opening request body c) (Client.opening request body d) := by
  rw [opening_eq, opening_eq]
  have hwrite : Couples (rearranged ns) 0 (do
      Client.ensureConnected true; writeRequest request.uri body) :=
    (couples_ensureConnected true).bind fun _ => couples_writeRequest request.uri body
  exact ((h.note .attempt .attempt).logIn hafter).bind fun _ c' d' hcoupled =>
    hwrite.alike c' d' hcoupled (Nat.zero_le _)

/-- Two attempts in which the same is heard do the same. -/
theorem Coupled.runStream (h : Coupled (rearranged ns) c d)
    (hafter : Held c → c.logsIn = true →
      ∀ n ∈ ns, n < (finalState (Client.logIn (c.note .attempt))).world.dials.length)
    (hc : (finalState (Client.runStream request body subscriber c)).world.cancelled = false)
    (hd : (finalState (Client.runStream request body subscriber d)).world.cancelled = false) :
    Alike (rearranged ns) (Client.runStream request body subscriber c)
      (Client.runStream request body subscriber d) := by
  -- An open channel without a handle ends both attempts before anything is read.
  by_cases hheld : Held c
  · have hopening : Alike (rearranged ns) (Client.opening request body c)
        (Client.opening request body d) := h.opening (hafter hheld)
    rcases hr : Client.opening request body c with ⟨⟨⟩, c'⟩ | ⟨e, c'⟩
    · obtain ⟨d', hr', hcoupled⟩ := hopening.ok hr
      obtain ⟨endpoint, t, handle, c'', hchannel, hh, ⟨hresult, channel, world, hclient, hworld⟩,
        hfinal⟩ := runStream_heeds hr hc
      obtain ⟨endpoint', u, handle', d'', hchannel', hh', ⟨hresult', channel', world', hclient',
        hworld'⟩, hfinal'⟩ := runStream_heeds hr' hd
      obtain rfl : handle' = handle := by
        rw [hcoupled.handle, hh] at hh'
        exact (Option.some.inj hh').symm
      have hlike := hcoupled.channel
      rw [hchannel, hchannel'] at hlike
      cases hlike with
      | connected _ hlike =>
          rw [heard_of_rearranged hlike] at hresult' hclient'
          refine ⟨hresult'.trans hresult.symm, ?_⟩
          rw [hfinal, hfinal']
          exact hcoupled.settle hworld hworld' hclient hclient'
    · obtain ⟨d', hr', hcoupled⟩ := hopening.error hr
      rw [runStream_of_unopened hr, runStream_of_unopened hr']
      exact ⟨rfl, hcoupled⟩
  · obtain ⟨hopen, hnone⟩ := Classical.not_imp.1 hheld
    rw [Option.not_isSome_iff_eq_none] at hnone
    rw [runStream_of_not_held hopen hnone,
      runStream_of_not_held (h.channel.isConnected.trans hopen) (h.handle.trans hnone)]
    exact ⟨rfl, h.note _ _⟩

end

/-! ## From one attempt to the next -/

section

variable {o : ClientOptions} {request : SubscriptionRequest} {body : Bytes}
  {subscriber : Subscriber} {s s' : Standing} {standings : List Standing}
  {result : EStateM.Result RpcError Client SubscriptionEnd} {ns : List Nat} {c d : Client}

theorem Coupled.carriedOut (h : Coupled (rearranged ns) c d) (uri : String) (decision : Decision) :
    Coupled (rearranged ns) (decision.carriedOut uri c) (decision.carriedOut uri d) := by
  cases decision with
  | finish result => exact h
  | follow targets u => exact h.followRedirect uri targets
  | renew u => exact h.setAuthenticated false
  | reconnect u => exact h.pause.refreshEndpoints

/-- Where the flag stays down a subscription ends by an attempt. -/
theorem Ends.finishes (h : Ends o request body subscriber s result)
    (huncancelled : (finalState result).world.cancelled = false) :
    attempt o request body subscriber s.tally s.client =
      (.finish (outcome result), finalState result) := by
  cases h with
  | cancelled hcancelled | paused _ _ hcancelled =>
      exact absurd (hcancelled.symm.trans huncancelled) (by decide)
  | done _ h | failed _ h => exact h

/-- A subscription ends with the first attempt that finishes it. -/
theorem Course.of_finish {r : Except RpcError SubscriptionEnd} {t : Tally}
    (h : Course o request body subscriber (⟨t, c⟩ :: standings) result)
    (hc : c.world.cancelled = false)
    (hfinish : (Client.attempt o request body subscriber t c).1 = .finish r) :
    outcome result = r ∧
      finalState result = finalState (Client.runStream request body subscriber c) := by
  rw [← attempt_snd o request body subscriber t]
  cases h with
  | last hends =>
      cases hends with
      | cancelled hcancelled => exact absurd (hc.symm.trans hcancelled) (by decide)
      | done _ h | failed _ h =>
          rw [h] at hfinish ⊢
          exact ⟨Decision.finish.inj hfinish, rfl⟩
      | paused _ h _ => rw [h] at hfinish; cases hfinish
  | resumed hstep _ =>
      have htally := hstep.carriedOut.1
      rw [hfinish] at htally
      cases htally

/-- A flag that is down in the end was down after the first attempt. -/
theorem Course.uncancelled (h : Course o request body subscriber (s :: standings) result)
    (huncancelled : (finalState result).world.cancelled = false) :
    (finalState (runStream request body subscriber s.client)).world.cancelled = false := by
  cases h with
  | last hends =>
      rw [← attempt_snd o request body subscriber s.tally, hends.finishes huncancelled]
      exact huncancelled
  | resumed hstep hcourse =>
      exact hstep.onward.further.uncancelled (hcourse.further.uncancelled huncancelled)

/-- The stream connection of an attempt is done with after it. -/
theorem lt_of_streamOf {n : Nat} (h : streamOf request body c = some n)
    (hnext : Onward (finalState (runStream request body subscriber c)) d) :
    d.world.dials.length ≤ n ∧ (d.channel.isConnected = true → d.world.dials.length < n) := by
  obtain ⟨c', hr, rfl⟩ := opening_of_streamOf h
  have hfurther := further_closing_pump subscriber .fresh c'
  have hclosed : Closed (finalState (closing (pump subscriber .fresh) c')) := by
    rw [(closing_spec (pump subscriber .fresh) c').2]
    exact closed_hangUp _
  rw [runStream_of_opened hr] at hnext
  have hle := hfurther.world.dials.length_le
  exact ⟨Nat.le_trans hnext.world.dials.length_le hle, fun hopen =>
    Nat.lt_of_lt_of_le (hnext.opened.lt hclosed hopen) hle⟩

theorem Coupled.resumed (hstep : Resumes o request body subscriber s s')
    (h : Coupled (rearranged (streams request body (s :: standings))) s'.client d) :
    Coupled (rearranged (streams request body standings)) s'.client d := by
  cases hs : streamOf request body s.client with
  | none =>
      simp only [streams, List.filterMap_cons, hs] at h
      exact h
  | some p =>
      -- What is open or still to come has fewer dials left than the connection that is done with.
      obtain ⟨hle, hlt⟩ := lt_of_streamOf hs hstep.onward
      have hcongr {n : Nat} (hn : n < p) :
          rearranged (streams request body (s :: standings)) n =
            rearranged (streams request body standings) n := by
        refine rearranged_congr ?_
        simp only [streams, List.filterMap_cons, hs, List.mem_cons]
        exact or_iff_right (Nat.ne_of_lt hn)
      exact h.congr (fun n hn => hcongr (Nat.lt_of_lt_of_le hn hle)) fun hopen => hcongr (hlt hopen)

/-- Two attempts in which the same is heard lead to the same decision. -/
theorem Coupled.attempt (h : Coupled (rearranged ns) c d)
    (hruns : Alike (rearranged ns) (Client.runStream request body subscriber c)
      (Client.runStream request body subscriber d)) (t : Tally) :
    (attempt o request body subscriber t d).1 = (attempt o request body subscriber t c).1 ∧
      Coupled (rearranged ns) (attempt o request body subscriber t c).2
        (attempt o request body subscriber t d).2 := by
  obtain ⟨houtcome, hfinal⟩ := hruns
  rw [attempt_eq, attempt_eq, houtcome]
  simp only [progressed, h.delivered, hfinal.delivered]
  exact ⟨rfl, hfinal⟩

/-- The first attempts of two subscriptions lead to the same decision. -/
theorem Course.coupled_attempt {standings' : List Standing}
    {result' : EStateM.Result RpcError Client SubscriptionEnd}
    (h : Course o request body subscriber (s :: standings) result)
    (h' : Course o request body subscriber (⟨s.tally, d⟩ :: standings') result')
    (hcoupled : Coupled (rearranged (streams request body (s :: standings))) s.client d)
    (hc : (finalState result).world.cancelled = false)
    (hd : (finalState result').world.cancelled = false) :
    (Client.attempt o request body subscriber s.tally d).1 =
        (Client.attempt o request body subscriber s.tally s.client).1 ∧
      Coupled (rearranged (streams request body (s :: standings)))
        (Client.attempt o request body subscriber s.tally s.client).2
        (Client.attempt o request body subscriber s.tally d).2 := by
  have hafter (hheld : Held s.client) (hlogs : s.client.logsIn = true) (n : Nat)
      (hn : n ∈ streams request body (s :: standings)) :
      n < (finalState (Client.logIn (s.client.note .attempt))).world.dials.length :=
    h.streams_lt_logIn (closed_logIn hheld hlogs) hn
  exact hcoupled.attempt
    (hcoupled.runStream hafter (h.uncancelled hc) (h'.uncancelled hd)) s.tally

/-- Two subscriptions in which the same is heard on each stream connection do the same. -/
theorem Course.alike {standings' : List Standing}
    {result' : EStateM.Result RpcError Client SubscriptionEnd}
    (h : Course o request body subscriber (s :: standings) result)
    (h' : Course o request body subscriber (⟨s.tally, d⟩ :: standings') result')
    (hcoupled : Coupled (rearranged (streams request body (s :: standings))) s.client d)
    (hc : (finalState result).world.cancelled = false)
    (hd : (finalState result').world.cancelled = false) :
    outcome result' = outcome result ∧
      (finalState result').delivered = (finalState result).delivered := by
  -- Along the first course; at each standing the second one has to take the same decision.
  generalize hl : s :: standings = l at h
  induction h generalizing s standings d standings' with
  | @last s result hends =>
      cases hl
      obtain ⟨hdecision, hnext⟩ := Course.coupled_attempt (.last hends) h' hcoupled hc hd
      rw [hends.finishes hc] at hdecision hnext
      cases h' with
      | last hends' =>
          rw [hends'.finishes hd] at hdecision hnext
          exact ⟨Decision.finish.inj hdecision, hnext.delivered⟩
      | resumed hstep' _ =>
          have htally := hstep'.carriedOut.1
          rw [hdecision] at htally
          cases htally
  | @resumed s s' rest result hstep hcourse ih =>
      cases hl
      obtain ⟨hdecision, hnext⟩ := (hcourse.resumed hstep).coupled_attempt h' hcoupled hc hd
      obtain ⟨htally, hclient⟩ := hstep.carriedOut
      cases h' with
      | last hends' =>
          rw [hends'.finishes hd] at hdecision
          rw [← hdecision] at htally
          cases htally
      | @resumed _ t' rest' _ hstep' hcourse' =>
          obtain ⟨htally', hclient'⟩ := hstep'.carriedOut
          obtain ⟨t, d'⟩ := t'
          rw [hdecision, htally, Option.some.injEq] at htally'
          subst htally'
          have hnext := hnext.carriedOut request.uri
            (attempt o request body subscriber s.tally s.client).1
          rw [← hclient] at hnext
          rw [hdecision] at hclient'
          rw [← hclient'] at hnext
          exact ih hcourse' (.resumed hstep hnext) hc rfl

end

/-! ## What a subscription delivers -/

/-- What comes of a subscription whose flag stays down, by where it stands before its attempts. -/
structure Delivers (request : SubscriptionRequest) (body : Bytes) (standings : List Standing)
    (result : EStateM.Result RpcError Client SubscriptionEnd) : Prop where
  /-- Connection after connection, records are handed over up to the one that ends it. -/
  delivered : (finalState result).delivered =
    standings.flatMap fun s => heeded (received request body s.client)
  /-- A record is all there on its connection. -/
  whole : ∀ s ∈ standings, ∀ record ∈ received request body s.client,
    LiesIn (arriving request body s.client) record
  /-- A malformed record that is reached ends the subscription. -/
  malformed : ∀ (before after : List Standing) (s : Standing) (records : List Record)
    (e : RpcError) (rest : List (Except RpcError Record)), standings = before ++ s :: after →
    received request body s.client = records.map .ok ++ .error e :: rest →
    (∀ record ∈ records, record.parting? = none) →
    after = [] ∧ outcome result = .error e ∧ ∃ reason, e = .malformedReply reason

/-- A client on an open connection that takes everything and ends the stream after `reads`. It gives
up when the stream ends. -/
def listening (reads : List (Cued ReadStep)) : Client :=
  { fresh ⟨.ofHost "a" 1 false, 1000, false, none, 0, 0⟩
      ⟨[], [], false, .memory [] none none, []⟩ with
    channel := .connected "a:1" ⟨false, reads, [], []⟩
    handle := some ⟨"a", 1, .fresh⟩ }

theorem opening_of_listening (request : SubscriptionRequest) (body : Bytes)
    (reads : List (Cued ReadStep)) : ∃ world, world.cancelled = false ∧
      opening request body (listening reads) = .ok () { listening reads with world } := by
  obtain ⟨world, hwrite, hcancelled⟩ := writeRequest_of_unscripted
    (c := (listening reads).note .attempt) request.uri body rfl rfl
  refine ⟨world, hcancelled, ?_⟩
  have hconnect : ensureConnected true ((listening reads).note .attempt) =
      .ok () ((listening reads).note .attempt) := by
    rw [ensureConnected_eq]
    exact if_pos rfl
  rw [opening_eq]
  simp only [Bind.bind, EStateM.bind, logIn_of_skipped (c := (listening reads).note .attempt) rfl,
    hconnect, hwrite]
  rfl

/-- A client that listens to a calm connection gives up with the flag down when the stream ends. -/
theorem subscribe_of_listening (request : SubscriptionRequest) {subscriber : Subscriber}
    {reads : List (Cued ReadStep)} (hs : ∀ records, subscriber records = false)
    (hcalm : ∀ step ∈ reads, step.cancels = false)
    (hheard : (hear (Link.retryLimit false) (Link.retryLimit false) reads).2 = none)
    (hquiet : conclusion
      (decoded (hear (Link.retryLimit false) (Link.retryLimit false) reads).1) = none) :
    (finalState (subscribe request subscriber (listening reads))).world.cancelled = false := by
  obtain ⟨w, hw, hopening⟩ := opening_of_listening request (payloadBytes request.payload) reads
  have hrun : (finalState (runStream request (payloadBytes request.payload) subscriber
      (listening reads))).world.cancelled = false := calm_runStream hs hopening rfl hcalm hw
  have houtcome : outcome (runStream request (payloadBytes request.payload) subscriber
      (listening reads)) = .ok .closed := by
    obtain ⟨endpoint, t, handle, c', hchannel, -, ⟨hresult, -⟩, -⟩ := runStream_heeds hopening hrun
    cases hchannel
    rw [hresult, RecordStream.drain_fst _ _ .fresh]
    change (conclusion (decoded (hear _ _ reads).1)).getD (ending _ (hear _ _ reads).2) = _
    rw [hquiet, hheard]
    rfl
  have hattempt : (attempt (listening reads).options request (payloadBytes request.payload)
      subscriber .zero (listening reads)).1 =
        .finish (.error (.reconnectsExhausted 0 "controller closed the subscription")) := by
    rw [attempt_eq, houtcome, ite_self]
    rfl
  obtain ⟨-, -, hworld⟩ := subscribe_spec request subscriber (listening reads)
  obtain ⟨standings, hcourse⟩ := course_subscriptionLoop (listening reads).options request
    (payloadBytes request.payload) subscriber .zero (listening reads)
  obtain ⟨-, hfinal⟩ := hcourse.of_finish rfl hattempt
  rw [hworld]
  change (finalState (subscriptionLoop _ _ _ _ _ (listening reads))).world.cancelled = false
  rw [hfinal]
  exact hrun

/-- Where the flag stays down, a subscription hands over the records of its stream connections, one
connection after the other, and of each of them the whole records that come before its stream ends
or a read fails for good; a redirect or a challenge is the last one of its connection, and a
malformed record ends the subscription. How the octets are cut on these connections makes no
difference, and neither do the timeouts and the short runs of interrupted reads among them. -/
theorem subscribe_delivers (request : SubscriptionRequest) (subscriber : Subscriber) (c : Client)
    (huncancelled : (finalState (subscribe request subscriber c)).world.cancelled = false) :
    ∃ standings : List Standing,
      standings.head? = some ⟨.zero, { c with delivered := [] }⟩ ∧
      Course c.options request (payloadBytes request.payload) subscriber standings
        (subscriptionLoop c.options request (payloadBytes request.payload) subscriber .zero
          { c with delivered := [] }) ∧
      Delivers request (payloadBytes request.payload) standings (subscribe request subscriber c) ∧
      ∀ d : Client,
        Coupled (rearranged (streams request (payloadBytes request.payload) standings))
          { c with delivered := [] } { d with delivered := [] } →
        (finalState (subscribe request subscriber d)).world.cancelled = false →
        outcome (subscribe request subscriber d) = outcome (subscribe request subscriber c) ∧
          (finalState (subscribe request subscriber d)).delivered =
            (finalState (subscribe request subscriber c)).delivered := by
  obtain ⟨houtcome, hdelivered, hworld⟩ := subscribe_spec request subscriber c
  obtain ⟨standings, hcourse⟩ := course_subscriptionLoop c.options request
    (payloadBytes request.payload) subscriber .zero { c with delivered := [] }
  rw [hworld] at huncancelled
  refine ⟨_, rfl, hcourse, ⟨?_, ?_, ?_⟩, fun d hcoupled hd => ?_⟩
  · exact hdelivered.trans (hcourse.delivers huncancelled)
  · exact fun s _ record hmem => liesIn_of_decoded hmem
  · intro before after s records e rest hsplit hreceived hquiet
    obtain ⟨hafter, hend, hreason⟩ :=
      (hsplit ▸ hcourse).malformed huncancelled hreceived hquiet
    exact ⟨hafter, houtcome.trans hend, hreason⟩
  · obtain ⟨houtcome', hdelivered', hworld'⟩ := subscribe_spec request subscriber d
    have hoptions : d.options = c.options := hcoupled.options
    generalize { d with delivered := [] } = d₀ at hcoupled houtcome' hdelivered' hworld'
    rw [hoptions] at houtcome' hdelivered' hworld'
    obtain ⟨standings', hcourse'⟩ := course_subscriptionLoop c.options request
      (payloadBytes request.payload) subscriber .zero d₀
    rw [hworld'] at hd
    obtain ⟨hsame, hsame'⟩ := hcourse.alike hcourse' hcoupled huncancelled hd
    exact ⟨houtcome'.trans (hsame.trans houtcome.symm),
      hdelivered'.trans (hsame'.trans hdelivered.symm)⟩

/-- Records that come in one piece are handed over as well when they are cut, with a timeout and an
interrupted read in between. -/
theorem delivered_of_cut_stream :
    let s := octets "\x7b\"event_class\":1\x7d\n\n"
    let cut : List (Cued ReadStep) :=
      [⟨.data (s.take 3), false⟩, ⟨.fail (.ofKind .timedOut), false⟩,
        ⟨.fail (.ofKind .interrupted), false⟩, ⟨.data (s.drop 3), false⟩]
    let c := listening [⟨.data s, false⟩]
    let d := listening cut
    let run := subscribe .events fun _ => false
    (finalState (run c)).world.cancelled = false ∧ (finalState (run d)).world.cancelled = false ∧
      (finalState (run d)).delivered = (finalState (run c)).delivered := by
  intro s cut c d run
  have hs : ∀ records : List Record, (fun _ => false : Subscriber) records = false := fun _ => rfl
  have hc : (finalState (run c)).world.cancelled = false :=
    subscribe_of_listening _ hs (by decide +kernel) rfl (by decide +kernel)
  have hd : (finalState (run d)).world.cancelled = false :=
    subscribe_of_listening _ hs (by decide +kernel) rfl (by decide +kernel)
  obtain ⟨standings, hfirst, -, -, hcut⟩ := subscribe_delivers .events (fun _ => false) c hc
  have hstream :
      0 ∈ streams .events (payloadBytes SubscriptionRequest.events.payload) standings := by
    obtain ⟨rest, rfl⟩ : ∃ rest, standings = ⟨.zero, c⟩ :: rest := List.head?_eq_some_iff.1 hfirst
    obtain ⟨w, -, hopening⟩ := opening_of_listening .events
      (payloadBytes SubscriptionRequest.events.payload) [⟨.data s, false⟩]
    have hstream : streamOf .events (payloadBytes SubscriptionRequest.events.payload) c =
        some w.dials.length := by rw [streamOf, hopening]
    have hzero : w.dials.length = 0 := Nat.le_zero.1 (streamOf_le hstream).1
    exact List.mem_filterMap.2 ⟨_, List.mem_cons_self, hzero ▸ hstream⟩
  have hcarries {streams : List Nat} (hstream : 0 ∈ streams) :
      rearranged streams 0 false [⟨.data s, false⟩] cut := by
    rw [rearranged, if_pos hstream]
    refine ⟨s, [], ?_, ?_⟩
    · have hone : Carries 100 [] 100 (s ++ []) [⟨.data s, false⟩] :=
        .data false (by decide +kernel) (.spent (.inl rfl))
      rwa [List.append_nil] at hone
    · have hcut : Carries 100 [] 100 (s.take 3 ++ (s.drop 3 ++ [])) cut :=
        .data false (by decide +kernel) (.timeout false rfl (.interrupt false rfl
          (.data false (by decide +kernel) (.spent (.inl rfl)))))
      rwa [List.append_nil, List.take_append_drop] at hcut
  exact ⟨hc, hd, (hcut d ⟨rfl, rfl, rfl, rfl, rfl, .nil,
    .connected _ ⟨_, rfl, hcarries hstream⟩⟩ hd).2⟩

end Client

end ClusterRpc
