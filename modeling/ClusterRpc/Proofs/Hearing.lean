import ClusterRpc.Proofs.Arrival
import ClusterRpc.Proofs.Course

/-!
# What is heard on a stream connection

A stream connection is read until its stream ends or a read fails for good. Timeouts and short runs
of interrupted reads leave no mark: what is handed over is read off the octets alone, as if they had
been there at once.
-/

namespace ClusterRpc

/-! ## Reads -/

/-- The octets that arrive before the stream ends, and the failure it ends in, if it does. After a
timeout and after octets up to `limit` interrupted reads in a row are tried again; `retries` of them
are left. -/
def hear (limit : Nat) : (retries : Nat) → List (Cued ReadStep) → Bytes × Option IoError
  | _, [] => ([], none)
  | retries, step :: rest =>
      match step.what with
      | .eof => ([], none)
      | .data bytes =>
          if bytes = [] then ([], none)
          else (bytes ++ (hear limit limit rest).1, (hear limit limit rest).2)
      | .fail cause =>
          if cause.isInterrupt then
            match retries with
            | 0 => ([], some cause)
            | retries + 1 => hear limit retries rest
          else if cause.isTimeout then hear limit limit rest
          else ([], some cause)

/-- A connection brings the octets `s`, and then goes on as `tail`. The octets come in pieces that
are not empty; there may be timeouts and interrupted reads among them, but no more of the latter in
a row than are tried again. -/
inductive Carries (limit : Nat) (tail : List (Cued ReadStep)) :
    (retries : Nat) → (s : Bytes) → List (Cued ReadStep) → Prop
  | spent {retries : Nat} :
      retries = limit ∨ (∀ step ∈ tail.head?, ∀ cause, step.what = .fail cause →
        cause.isInterrupt = false) → Carries limit tail retries [] tail
  | data {retries : Nat} {s chunk : Bytes} {reads : List (Cued ReadStep)} (cancels : Bool) :
      chunk ≠ [] → Carries limit tail limit s reads →
      Carries limit tail retries (chunk ++ s) (⟨.data chunk, cancels⟩ :: reads)
  | timeout {retries : Nat} {s : Bytes} {cause : IoError} {reads : List (Cued ReadStep)}
      (cancels : Bool) : cause.isTimeout = true → Carries limit tail limit s reads →
      Carries limit tail retries s (⟨.fail cause, cancels⟩ :: reads)
  | interrupt {retries : Nat} {s : Bytes} {cause : IoError} {reads : List (Cued ReadStep)}
      (cancels : Bool) : cause.isInterrupt = true → Carries limit tail retries s reads →
      Carries limit tail (retries + 1) s (⟨.fail cause, cancels⟩ :: reads)

theorem IoError.not_isInterrupt_of_isTimeout {cause : IoError} (h : cause.isTimeout = true) :
    cause.isInterrupt = false := by
  rcases cause with ⟨kind, text⟩
  cases kind <;> first | rfl | cases h

/-- Retries only count where there is an interrupted read. -/
theorem hear_of_head {limit : Nat} {reads : List (Cued ReadStep)}
    (h : ∀ step ∈ reads.head?, ∀ cause, step.what = .fail cause → cause.isInterrupt = false)
    (retries retries' : Nat) : hear limit retries reads = hear limit retries' reads := by
  cases reads with
  | nil => rw [hear, hear]
  | cons step rest =>
      rcases step with ⟨what, cancels⟩
      cases what with
      | data | eof => rfl
      | fail cause =>
          have hcause := h _ rfl cause rfl
          simp only [hear, hcause, Bool.false_eq_true, if_false]

/-- How the octets are cut makes no difference to what is heard, and neither do timeouts and
interrupted reads. -/
theorem hear_of_carries {limit retries : Nat} {s : Bytes} {tail reads : List (Cued ReadStep)}
    (h : Carries limit tail retries s reads) :
    hear limit retries reads = (s ++ (hear limit limit tail).1, (hear limit limit tail).2) := by
  induction h with
  | spent htail =>
      rcases htail with rfl | hhead
      · rfl
      · rw [hear_of_head hhead _ limit]
        rfl
  | data cancels hne _ ih =>
      simp only [hear, if_neg hne, ih, List.append_assoc]
  | timeout cancels hcause _ ih =>
      simp only [hear, IoError.not_isInterrupt_of_isTimeout hcause, hcause, if_true,
        Bool.false_eq_true, if_false, ih]
  | interrupt cancels hcause _ ih =>
      simp only [hear, hcause, if_true, ih]

/-- What is heard on a connection. -/
def Transport.heard (t : Transport) : Bytes × Option IoError :=
  hear (Link.retryLimit t.tls) (Link.retryLimit t.tls) t.reads

/-- How a read begins what is heard, given what it ends in and what is heard after it. -/
inductive Begins (endpoint : String) (rest : Bytes × Option IoError) :
    Except TransportError Bytes → Bytes × Option IoError → Prop
  | closed : Begins endpoint rest (.ok []) ([], none)
  | arrived {chunk : Bytes} : chunk ≠ [] →
      Begins endpoint rest (.ok chunk) (chunk ++ rest.1, rest.2)
  | timedOut : Begins endpoint rest (.error (.readTimeout endpoint)) rest
  | failed (cause : IoError) : Begins endpoint rest (.error (.read endpoint cause)) ([], some cause)

namespace Transport

theorem tls_read (t : Transport) (room : Nat) : (t.read room).2.2.tls = t.tls := by
  fun_cases Transport.read t room <;> rfl

/-- A read that fails has met that failure. -/
theorem reads_of_error {t t' : Transport} {room : Nat} {cause : IoError} {cancels : Bool}
    (h : t.read room = (.error cause, cancels, t')) :
    t.reads = ⟨.fail cause, cancels⟩ :: t'.reads := by
  rcases t with ⟨tls, reads, writes, flushes⟩
  cases reads with
  | nil => cases h
  | cons step rest =>
      rcases step with ⟨what, cancels'⟩
      cases what with
      | eof => cases h
      | fail cause' => cases h; rfl
      | data bytes =>
          simp only [read] at h
          split at h <;> cases h

/-- A read that does not fail takes a beginning of what is heard. -/
theorem begins_of_ok {t t' : Transport} {room : Nat} {chunk : Bytes} {cancels : Bool}
    (h : t.read room = (.ok chunk, cancels, t')) (hroom : 0 < room) (limit retries : Nat)
    (endpoint : String) :
    Begins endpoint (hear limit limit t'.reads) (.ok chunk) (hear limit retries t.reads) := by
  rcases t with ⟨tls, reads, writes, flushes⟩
  cases reads with
  | nil => cases h; exact .closed
  | cons step rest =>
      rcases step with ⟨what, cancels'⟩
      cases what with
      | eof => cases h; exact .closed
      | fail cause => cases h
      | data bytes =>
          simp only [read] at h
          split at h
          · cases h
            by_cases hne : chunk = []
            · subst hne
              exact .closed
            · simp only [hear, if_neg hne]
              exact .arrived hne
          · rename_i hlong
            cases h
            have hbytes : bytes ≠ [] := by
              rintro rfl
              exact hlong (Nat.zero_le _)
            have hdrop : bytes.drop room ≠ [] := by
              rw [Ne, List.drop_eq_nil_iff]
              exact hlong
            have htake : bytes.take room ≠ [] := by
              rw [Ne, List.take_eq_nil_iff]
              rintro (rfl | rfl)
              · exact absurd hroom (Nat.lt_irrefl _)
              · exact hbytes rfl
            have hheard : hear limit retries (⟨.data bytes, cancels'⟩ :: rest) =
                (bytes.take room ++
                  (hear limit limit (⟨.data (bytes.drop room), cancels'⟩ :: rest)).1,
                (hear limit limit (⟨.data (bytes.drop room), cancels'⟩ :: rest)).2) := by
              simp only [hear, if_neg hbytes, if_neg hdrop, ← List.append_assoc,
                List.take_append_drop]
            rw [hheard]
            exact .arrived htake

end Transport

namespace Link

/-- A read with retries takes a beginning of what is heard. -/
theorem readRetrying_begins (endpoint : String) {room : Nat} (hroom : 0 < room)
    (limit retries : Nat) (t : Transport) (w : World) :
    Begins endpoint (hear limit limit (readRetrying endpoint room retries t w).2.1.reads)
        (readRetrying endpoint room retries t w).1 (hear limit retries t.reads) ∧
      (readRetrying endpoint room retries t w).2.1.tls = t.tls := by
  induction retries generalizing t w with
  | zero =>
      have htls := t.tls_read room
      rw [readRetrying]
      rcases hr : t.read room with ⟨cause | chunk, cancels, t'⟩ <;> rw [hr] at htls <;> dsimp only
      · rw [Transport.reads_of_error hr]
        simp only [hear]
        split
        · exact ⟨.failed cause, htls⟩
        split
        · exact ⟨.timedOut, htls⟩
        · exact ⟨.failed cause, htls⟩
      · exact ⟨Transport.begins_of_ok hr hroom limit 0 endpoint, htls⟩
  | succ retries ih =>
      have htls := t.tls_read room
      rw [readRetrying]
      rcases hr : t.read room with ⟨cause | chunk, cancels, t'⟩ <;> rw [hr] at htls <;> dsimp only
      · rw [Transport.reads_of_error hr]
        simp only [hear]
        split
        · obtain ⟨hbegins, htls'⟩ := ih t' (w.cue cancels)
          exact ⟨hbegins, htls'.trans htls⟩
        split
        · exact ⟨.timedOut, htls⟩
        · exact ⟨.failed cause, htls⟩
      · exact ⟨Transport.begins_of_ok hr hroom limit (retries + 1) endpoint, htls⟩

theorem read_begins (endpoint : String) (t : Transport) (w : World) :
    ∃ t' w', finalState (read readChunk ⟨.connected endpoint t, w⟩) =
        ⟨.connected endpoint t', w'⟩ ∧ t'.tls = t.tls ∧ w.Untouched w' ∧
      Begins endpoint t'.heard (outcome (read readChunk ⟨.connected endpoint t, w⟩)) t.heard := by
  obtain ⟨hbegins, htls⟩ := readRetrying_begins endpoint (show 0 < readChunk by decide)
    (retryLimit t.tls) (retryLimit t.tls) t w
  have hworld := World.passage_untouched.readRetrying endpoint readChunk (retryLimit t.tls) t w
  simp only [read]
  rcases hr : readRetrying endpoint readChunk (retryLimit t.tls) t w with ⟨result, t', w'⟩
  rw [hr] at hbegins htls hworld
  rw [← htls] at hbegins
  refine ⟨t', w', ?_, htls, hworld, ?_⟩
  · cases result <;> rfl
  · rw [Transport.heard, Transport.heard, ← htls]
    cases result <;> exact hbegins

end Link

/-! ## Records -/

/-- How a record ends the connection it comes on, if it does: a reply that is a challenge, or one that
is a redirect and names a usable leader. -/
def Record.parting? : Record → Option (Except RpcError StreamOutcome)
  | .event _ => none
  | .reply r =>
      if r.isAuthRequired then some (.error (.authRequired r.errorString))
      else if r.isRedirect then r.redirectTargets?.map fun targets => .ok (.redirected targets)
      else none

theorem Reply.not_isRedirect_of_isAuthRequired {r : Reply} (h : r.isAuthRequired = true) :
    r.isRedirect = false := by
  rw [isAuthRequired, beq_iff_eq] at h
  rw [isRedirect, h]
  rfl

/-- The two kinds of replies exclude each other, so it does not matter which is looked for first. -/
theorem Client.verdict_eq_parting? (record : Record) : verdict record = record.parting? := by
  cases record with
  | event fields => rfl
  | reply r =>
      cases hauth : r.isAuthRequired with
      | true =>
          have hredirect := Reply.not_isRedirect_of_isAuthRequired hauth
          simp only [verdict, Record.parting?, hauth, hredirect, if_true]
      | false =>
          simp only [verdict, Record.parting?, hauth, Bool.false_eq_true, if_false]
          cases r.isRedirect <;> cases r.redirectTargets? <;> rfl

/-- The records that are handed over: up to the first that ends the connection. -/
def heeded : List (Except RpcError Record) → List Record
  | [] => []
  | .error _ :: _ => []
  | .ok record :: rest =>
      record :: if record.parting?.isSome then [] else heeded rest

/-- How records end a connection, if they do. -/
def conclusion : List (Except RpcError Record) → Option (Except RpcError StreamOutcome)
  | [] => none
  | .error e :: _ => some (.error e)
  | .ok record :: rest => record.parting?.or (conclusion rest)

theorem conclusion_append (records more : List (Except RpcError Record)) :
    conclusion (records ++ more) = (conclusion records).or (conclusion more) := by
  induction records with
  | nil => rfl
  | cons record rest ih =>
      cases record with
      | error e => rfl
      | ok record => rw [List.cons_append, conclusion, conclusion, ih, Option.or_assoc]

theorem heeded_append_of_some {records : List (Except RpcError Record)}
    (h : (conclusion records).isSome = true) (more : List (Except RpcError Record)) :
    heeded (records ++ more) = heeded records := by
  induction records with
  | nil => cases h
  | cons record rest ih =>
      cases record with
      | error e => rfl
      | ok record =>
          rw [List.cons_append, heeded, heeded]
          cases hparting : record.parting? with
          | some => rfl
          | none =>
              rw [conclusion, hparting, Option.none_or] at h
              rw [ih h]

theorem heeded_append_of_none {records : List (Except RpcError Record)}
    (h : conclusion records = none) (more : List (Except RpcError Record)) :
    heeded (records ++ more) = heeded records ++ heeded more := by
  induction records with
  | nil => rfl
  | cons record rest ih =>
      cases record with
      | error e => cases h
      | ok record =>
          rw [conclusion, Option.or_eq_none_iff] at h
          rw [List.cons_append, heeded, heeded, h.1, ih h.2]
          rfl

namespace RecordStream

/-- A stream that has given a record is past its header block. -/
theorem headPending_of_records {stream : RecordStream} {session : Session}
    (h : (stream.drain session).1 ≠ []) : (stream.drain session).2.1.headPending = false := by
  simp only [drain] at h ⊢
  split at h
  · exact absurd rfl h
  · rename_i hpending
    rw [if_neg hpending]
    exact Bool.eq_false_iff.2 hpending

/-- Past the header block a session stays as it is. -/
theorem drain_session_of_not_pending {stream : RecordStream} (h : stream.headPending = false)
    (session : Session) :
    (stream.drain session).2.2 = session := by
  obtain ⟨buffer, pending⟩ := stream
  obtain rfl : pending = false := h
  rfl

end RecordStream

namespace Client

section

variable {subscriber : Subscriber} {c : Client}

/-- Where the flag stays down records are handed over up to the first that ends the connection. -/
theorem handOverAll_eq {records : List (Except RpcError Record)} {c' : Client}
    {result : Option (Except RpcError StreamOutcome)}
    (h : handOverAll subscriber records c = (result, c')) (hc : c'.world.cancelled = false) :
    result = conclusion records ∧ ∃ world,
      c' = { c with delivered := c.delivered ++ heeded records, world } ∧
        c.world.Untouched world := by
  fun_induction handOverAll subscriber records c with
  | case1 c | case2 e rest c =>
      obtain ⟨rfl, rfl⟩ := Prod.mk.inj h
      exact ⟨rfl, c.world, by simp [heeded], .refl _⟩
  | case3 record rest c handed outcome hverdict =>
      obtain ⟨rfl, rfl⟩ := Prod.mk.inj h
      rw [verdict_eq_parting?] at hverdict
      refine ⟨by simp [conclusion, hverdict], handed.world, ?_, ?_⟩
      · simp only [heeded, hverdict, Option.isSome_some, if_true]
        rfl
      · exact (World.untouched_emit ..).trans (World.passage_untouched.cue _ _)
  | case4 record rest c handed hverdict hcancelled =>
      obtain ⟨rfl, rfl⟩ := Prod.mk.inj h
      rw [hcancelled] at hc
      cases hc
  | case5 record rest c handed hverdict hcancelled ih =>
      obtain ⟨hconclusion, world, rfl, huntouched⟩ := ih h
      rw [verdict_eq_parting?] at hverdict
      refine ⟨by simp [conclusion, hverdict, hconclusion], world, ?_, ?_⟩
      · simp only [heeded, hverdict, handed, handOver, Option.isSome_none, Bool.false_eq_true,
          if_false, List.append_assoc, List.singleton_append]
      · exact ((World.untouched_emit ..).trans (World.passage_untouched.cue _ _)).trans huntouched

/-- What a read of the open connection makes of what there is to hear on it. -/
theorem read_begins {endpoint : String} {t : Transport}
    {result : EStateM.Result TransportError Link Bytes} (hc : c.channel = .connected endpoint t)
    (hr : Link.read readChunk c.link = result) :
    ∃ t' w, finalState result = ⟨.connected endpoint t', w⟩ ∧ t'.tls = t.tls ∧
      c.world.Untouched w ∧ Begins endpoint t'.heard (outcome result) t.heard := by
  rw [← hr, link, hc]
  exact Link.read_begins endpoint t c.world

/-- How a connection ends that no record has ended. -/
def ending (endpoint : String) : Option IoError → Except RpcError StreamOutcome
  | none => .ok .closed
  | some cause => .error (.transport (.read endpoint cause))

/-- What comes of a connection on which `heard` is heard: the records in it are handed over, as if
all octets had been there at once, and nothing else counts. -/
structure Heeds (stream : RecordStream) (endpoint : String) (h : Handle)
    (heard : Bytes × Option IoError) (c : Client) (result : Except RpcError StreamOutcome)
    (c' : Client) : Prop where
  result : result = (conclusion ((stream.feed heard.1).drain h.session).1).getD
    (ending endpoint heard.2)
  client : ∃ channel world,
    c' =
        { c with
          channel
          handle := some { h with session := ((stream.feed heard.1).drain h.session).2.2 }
          delivered := c.delivered ++ heeded ((stream.feed heard.1).drain h.session).1
          world } ∧
      c.world.Untouched world

section

variable {stream : RecordStream} {endpoint : String} {t : Transport} {h : Handle}

/-- Nothing comes of a connection on which nothing is heard. -/
theorem heeds_nothing (hh : c.handle = some h)
    (hd : stream.drain h.session = ([], stream, h.session)) (cause : Option IoError)
    (channel : Channel) {world : World} (hworld : c.world.Untouched world) :
    Heeds stream endpoint h ([], cause) c (ending endpoint cause) { c with channel, world } := by
  have hnothing : (stream.feed []).drain h.session = ([], stream, h.session) := by
    rw [RecordStream.feed_nil, hd]
  refine ⟨by simp only [hnothing]; rfl, channel, world, ?_, hworld⟩
  simp only [hnothing, heeded, List.append_nil, ← hh]

/-- Octets that arrive are turned into records, and these are handed over. -/
theorem handOverAll_of_read {chunk : Bytes} {l : Link} {c'' : Client}
    {result : Option (Except RpcError StreamOutcome)}
    (hc : c.channel = .connected endpoint t) (hr : Link.read readChunk c.link = .ok chunk l)
    (hne : chunk ≠ [])
    (hhand : handOverAll subscriber ((stream.feed chunk).drain h.session).1
      ((c.withLink l).learn h (stream.feed chunk).block?
        ((stream.feed chunk).drain h.session).2.2) = (result, c''))
    (huncancelled : c''.world.cancelled = false) :
    result = conclusion ((stream.feed chunk).drain h.session).1 ∧ ∃ t' world,
      c'' =
          { c with
            channel := .connected endpoint t'
            handle := some { h with session := ((stream.feed chunk).drain h.session).2.2 }
            delivered := c.delivered ++ heeded ((stream.feed chunk).drain h.session).1
            world } ∧
        c.world.Untouched world ∧ t'.tls = t.tls ∧ t.heard = (chunk ++ t'.heard.1, t'.heard.2) := by
  obtain ⟨t', w, hl, htls, hread, hbegins⟩ := read_begins hc hr
  obtain rfl : l = ⟨.connected endpoint t', w⟩ := hl
  obtain ⟨w', hlearn, hlearned⟩ := learn_untouched (c.withLink ⟨.connected endpoint t', w⟩) h
    (stream.feed chunk).block? ((stream.feed chunk).drain h.session).2.2
  rw [hlearn] at hhand
  obtain ⟨hresult, world, hfinal, hhanded⟩ := handOverAll_eq hhand huncancelled
  refine ⟨hresult, t', world, hfinal, (hread.trans hlearned).trans hhanded, htls, ?_⟩
  rw [show outcome (EStateM.Result.ok chunk _ : EStateM.Result TransportError Link Bytes) =
    .ok chunk from rfl] at hbegins
  generalize t.heard = heard at hbegins
  cases hbegins with
  | closed => exact absurd rfl hne
  | arrived _ => rfl

/-- Octets that arrive after a record has ended the connection change nothing. -/
theorem heeds_of_concluded {chunk : Bytes} {l : Link} {c'' : Client}
    {result : Except RpcError StreamOutcome}
    (hc : c.channel = .connected endpoint t) (hr : Link.read readChunk c.link = .ok chunk l)
    (hne : chunk ≠ [])
    (hhand : handOverAll subscriber ((stream.feed chunk).drain h.session).1
      ((c.withLink l).learn h (stream.feed chunk).block?
        ((stream.feed chunk).drain h.session).2.2) = (some result, c''))
    (huncancelled : c''.world.cancelled = false) :
    Heeds stream endpoint h t.heard c result c'' := by
  obtain ⟨hconclusion, t', w, rfl, hworld, -, hheard⟩ :=
    handOverAll_of_read hc hr hne hhand huncancelled
  have hrecords : ((stream.feed chunk).drain h.session).1 ≠ [] := by
    intro hnil
    rw [hnil] at hconclusion
    cases hconclusion
  have hpast : (((stream.feed chunk).drain h.session).2.1.feed t'.heard.1).headPending = false :=
    RecordStream.headPending_of_records hrecords
  have hsession := RecordStream.drain_session_of_not_pending hpast
    ((stream.feed chunk).drain h.session).2.2
  refine ⟨?_, .connected endpoint t', w, ?_, hworld⟩
  · rw [hheard, RecordStream.drain_feed_append, conclusion_append, ← hconclusion]
    rfl
  · rw [hheard, RecordStream.drain_feed_append,
      heeded_append_of_some (by rw [← hconclusion]; rfl), hsession]

/-- Octets that arrive and do not end the connection are as good as none that were waited for. -/
theorem Heeds.of_read {chunk : Bytes} {t' : Transport} {channel : Channel} {world : World}
    {result : Except RpcError StreamOutcome} {c' : Client}
    (hconclusion : conclusion ((stream.feed chunk).drain h.session).1 = none)
    (hworld : c.world.Untouched world) (hheard : t.heard = (chunk ++ t'.heard.1, t'.heard.2))
    (hrest : Heeds ((stream.feed chunk).drain h.session).2.1 endpoint
      { h with session := ((stream.feed chunk).drain h.session).2.2 } t'.heard
      { c with
        channel
        handle := some { h with session := ((stream.feed chunk).drain h.session).2.2 }
        delivered := c.delivered ++ heeded ((stream.feed chunk).drain h.session).1
        world } result c') :
    Heeds stream endpoint h t.heard c result c' := by
  obtain ⟨hresult, channel', world', hclient, huntouched⟩ := hrest
  refine ⟨?_, channel', world', ?_, hworld.trans huntouched⟩
  · rw [hresult, hheard, RecordStream.drain_feed_append, conclusion_append, hconclusion,
      Option.none_or]
  · rw [hclient, hheard, RecordStream.drain_feed_append, heeded_append_of_none hconclusion,
      ← List.append_assoc]

/-- Where the flag stays down, what comes of a connection depends on what is heard on it. -/
theorem pump_heeds (hc : c.channel = .connected endpoint t) (hh : c.handle = some h)
    (hd : stream.drain h.session = ([], stream, h.session))
    (huncancelled : (finalState (pump subscriber stream c)).world.cancelled = false) :
    Heeds stream endpoint h t.heard c (outcome (pump subscriber stream c))
      (finalState (pump subscriber stream c)) := by
  fun_induction pump subscriber stream c generalizing t h with
  | case1 stream c hcancelled =>
      rw [show c.world.cancelled = false from huncancelled] at hcancelled
      cases hcancelled
  | case2 stream c _ e l hr htimeout ih =>
      obtain ⟨t', w, hl, htls, hworld, hbegins⟩ := read_begins hc hr
      obtain rfl : l = ⟨.connected endpoint t', w⟩ := hl
      obtain ⟨hresult, channel, world, hclient, huntouched⟩ := ih (t := t') rfl hh hd huncancelled
      generalize t.heard = heard at hbegins
      cases hbegins with
      | timedOut => exact ⟨hresult, channel, world, hclient, hworld.trans huntouched⟩
      | failed cause => cases htimeout
  | case3 stream c _ e l hr htimeout =>
      obtain ⟨t', w, hl, htls, hworld, hbegins⟩ := read_begins hc hr
      obtain rfl : l = ⟨.connected endpoint t', w⟩ := hl
      generalize t.heard = heard at hbegins
      cases hbegins with
      | timedOut => exact absurd rfl htimeout
      | failed cause => exact heeds_nothing hh hd (some cause) _ hworld
  | case4 stream c _ l hr =>
      obtain ⟨t', w, hl, htls, hworld, hbegins⟩ := read_begins hc hr
      obtain rfl : l = ⟨.connected endpoint t', w⟩ := hl
      generalize t.heard = heard at hbegins
      cases hbegins with
      | closed => exact heeds_nothing hh hd none _ hworld
      | arrived hne => exact absurd rfl hne
  | case5 stream c _ chunk l hr hne hnone => rw [hnone] at hh; cases hh
  | case6 stream c _ chunk l hr hne handle hhandle fed drained c' c'' =>
      rename_i hhand ih
      obtain rfl : handle = h := Option.some.inj (hhandle.symm.trans hh)
      -- The records before the next read are handed over to the end only if the flag stays down.
      have hstays : c''.world.cancelled = false := by
        cases hcancelled : c''.world.cancelled with
        | false => rfl
        | true =>
            have hstill := (further_pump subscriber drained.2.1 c'').world.cancelled hcancelled
            rw [hstill] at huncancelled
            cases huncancelled
      obtain ⟨hconclusion, t', w, rfl, hworld, htls, hheard⟩ :=
        handOverAll_of_read hc hr hne hhand hstays
      exact .of_read hconclusion.symm hworld hheard
        (ih rfl rfl (RecordStream.drain_drain fed handle.session) huncancelled)
  | case7 stream c _ chunk l hr hne handle hhandle fed drained c' result =>
      rename_i hhand
      obtain rfl : handle = h := Option.some.inj (hhandle.symm.trans hh)
      exact heeds_of_concluded hc hr hne hhand huncancelled
  | case8 stream c _ chunk l hr hne handle hhandle fed drained c' e =>
      rename_i hhand
      obtain rfl : handle = h := Option.some.inj (hhandle.symm.trans hh)
      exact heeds_of_concluded hc hr hne hhand huncancelled

end

end

end Client

/-! ## Connections on which the flag stays down -/

/-- Nothing that is read raises the flag. -/
def Transport.Calm (t : Transport) : Prop := ∀ step ∈ t.reads, step.cancels = false

theorem Transport.calm_read {t : Transport} (h : t.Calm) (room : Nat) :
    (t.read room).2.1 = false ∧ (t.read room).2.2.Calm := by
  rcases t with ⟨tls, reads, writes, flushes⟩
  cases reads with
  | nil => exact ⟨rfl, h⟩
  | cons step rest =>
      obtain ⟨hstep, hrest⟩ := List.forall_mem_cons.1 h
      rcases step with ⟨what, cancels⟩
      cases what with
      | eof | fail => exact ⟨hstep, hrest⟩
      | data bytes =>
          simp only [read]
          split
          · exact ⟨hstep, hrest⟩
          · exact ⟨rfl, List.forall_mem_cons.2 ⟨hstep, hrest⟩⟩

theorem Link.calm_readRetrying (endpoint : String) (room retries : Nat) {t : Transport} {w : World}
    (h : t.Calm) (hw : w.cancelled = false) :
    (readRetrying endpoint room retries t w).2.1.Calm ∧
      (readRetrying endpoint room retries t w).2.2.cancelled = false := by
  induction retries generalizing t w with
  | zero =>
      have hcalm := t.calm_read h room
      rw [readRetrying]
      rcases hr : t.read room with ⟨cause | chunk, cancels, t'⟩ <;> rw [hr] at hcalm <;>
        obtain ⟨rfl, ht'⟩ := hcalm
      · dsimp only
        split
        · exact ⟨ht', hw⟩
        split <;> exact ⟨ht', hw⟩
      · exact ⟨ht', hw⟩
  | succ retries ih =>
      have hcalm := t.calm_read h room
      rw [readRetrying]
      rcases hr : t.read room with ⟨cause | chunk, cancels, t'⟩ <;> rw [hr] at hcalm <;>
        obtain ⟨rfl, ht'⟩ := hcalm
      · dsimp only
        split
        · exact ih ht' hw
        split <;> exact ⟨ht', hw⟩
      · exact ⟨ht', hw⟩

namespace Client

section

variable {subscriber : Subscriber} {endpoint : String} {t : Transport} {c : Client}

theorem calm_read (hc : c.channel = .connected endpoint t) (ht : t.Calm)
    (hcancelled : c.world.cancelled = false) :
    ∃ t' w, finalState (Link.read readChunk c.link) = ⟨.connected endpoint t', w⟩ ∧ t'.Calm ∧
      w.cancelled = false := by
  have hcalm := Link.calm_readRetrying endpoint readChunk (Link.retryLimit t.tls) ht hcancelled
  simp only [link, Link.read, hc]
  rcases hr : Link.readRetrying endpoint readChunk (Link.retryLimit t.tls) t c.world with
    ⟨_ | _, t', w⟩ <;> rw [hr] at hcalm <;> exact ⟨t', w, rfl, hcalm⟩

theorem calm_handOverAll (hs : ∀ records, subscriber records = false)
    (records : List (Except RpcError Record)) (hcancelled : c.world.cancelled = false) :
    (handOverAll subscriber records c).2.world.cancelled = false := by
  have hcue (record : Record) (c : Client) (h : c.world.cancelled = false) :
      (c.handOver subscriber record).world.cancelled = false := by
    simp only [handOver, hs]
    exact h
  fun_induction handOverAll subscriber records c with
  | case1 | case2 => exact hcancelled
  | case3 record rest c => exact hcue record c hcancelled
  | case4 record rest c => exact hcue record c hcancelled
  | case5 record rest c _ _ _ ih => exact ih (hcue record c hcancelled)

/-- The flag stays down on a connection where neither a read nor the subscriber raises it. -/
theorem calm_pump (hs : ∀ records, subscriber records = false) (stream : RecordStream)
    (hc : c.channel = .connected endpoint t) (ht : t.Calm)
    (hcancelled : c.world.cancelled = false) :
    (finalState (pump subscriber stream c)).world.cancelled = false := by
  have hread {c : Client} {t : Transport} (hc : c.channel = .connected endpoint t) (ht : t.Calm)
      (hcancelled : c.world.cancelled = false) {result : EStateM.Result TransportError Link Bytes}
      (hr : Link.read readChunk c.link = result) : ∃ t', (finalState result).channel =
        .connected endpoint t' ∧ t'.Calm ∧ (finalState result).world.cancelled = false := by
    obtain ⟨t', w, hl, hcalm⟩ := calm_read hc ht hcancelled
    rw [← hr, hl]
    exact ⟨t', rfl, hcalm⟩
  have hlearn (c : Client) (h : Handle) (block : Option Bytes) (session : Session) :
      (c.learn h block session).world.cancelled = c.world.cancelled := by cases block <;> rfl
  fun_induction pump subscriber stream c generalizing t with
  | case1 => exact hcancelled
  | case2 stream c _ e l hr _ ih =>
      obtain ⟨t', hchannel, ht', hw⟩ := hread hc ht hcancelled hr
      exact ih hchannel ht' hw
  | case3 stream c _ e l hr | case4 stream c _ l hr | case5 stream c _ chunk l hr =>
      exact (hread hc ht hcancelled hr).choose_spec.2.2
  | case6 stream c _ chunk l hr hne handle hhandle fed drained c' c'' =>
      rename_i hhand ih
      obtain ⟨t', hchannel, ht', hw⟩ := hread hc ht hcancelled hr
      have hstays := calm_handOverAll hs drained.1 (c := c') ((hlearn ..).trans hw)
      have hsame : c'.channel = l.channel := learn_channel ..
      have hsame' := handOverAll_channel subscriber drained.1 c'
      rw [hhand] at hstays hsame'
      exact ih ((hsame'.trans hsame).trans hchannel) ht' hstays
  | case7 stream c _ chunk l hr hne handle hhandle fed drained c' result
  | case8 stream c _ chunk l hr hne handle hhandle fed drained c' e =>
      rename_i hhand
      obtain ⟨t', hchannel, ht', hw⟩ := hread hc ht hcancelled hr
      have hstays := calm_handOverAll hs drained.1 (c := c') ((hlearn ..).trans hw)
      rw [hhand] at hstays
      exact hstays

end

end Client

end ClusterRpc
