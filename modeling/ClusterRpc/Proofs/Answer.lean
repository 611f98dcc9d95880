import ClusterRpc.Proofs.Completion
import ClusterRpc.Proofs.Reception

/-!
# What a connection makes of a request

Whether a request is written, whether its response is received and which reply that is depends on
nothing but the connection: on the writes and flushes that the request meets, and on the reads up to
the end of its response. An exchange comes to what the connection says, be it a reply or a failure.
-/

namespace ClusterRpc

/-! ## Requests -/

namespace WriteScript

/-- The writes that are still to come once octets are sent. -/
def left : List (Cued WriteStep) → Bytes → List (Cued WriteStep)
  | steps, [] => steps
  | [], _ :: _ => []
  | step :: rest, byte :: bytes => left rest ((byte :: bytes).drop step.what.room)

theorem left_nil (steps : List (Cued WriteStep)) : left steps [] = steps := by
  cases steps <;> rfl

theorem left_cons {bytes : Bytes} (hne : bytes ≠ []) (step : Cued WriteStep)
    (rest : List (Cued WriteStep)) :
    left (step :: rest) bytes = left rest (bytes.drop step.what.room) := by
  cases bytes with
  | nil => exact absurd rfl hne
  | cons byte bytes => rfl

end WriteScript

namespace Transport

/-- The connection once octets are written and flushed. -/
def past (t : Transport) (bytes : Bytes) : Transport :=
  { t with writes := WriteScript.left t.writes bytes, flushes := t.flushes.tail }

/-- Why a request is not written, if so. Its head and its body are written and flushed in turn. -/
def requestObstacle? (t : Transport) (frame : RequestFrame) : Option IoError :=
  (Link.writeObstacle? t frame.head).or (Link.writeObstacle? (t.past frame.head) frame.body)

end Transport

namespace Link

theorem writeSteps_left {endpoint : String} {w : World} {steps : List (Cued WriteStep)}
    {bytes : Bytes} (h : (writeSteps endpoint w steps bytes).1 = .ok ()) :
    (writeSteps endpoint w steps bytes).2.1 = WriteScript.left steps bytes := by
  fun_induction writeSteps endpoint w steps bytes with
  | case1 w steps => exact (WriteScript.left_nil steps).symm
  | case2 w bytes hne =>
      cases bytes with
      | nil => exact absurd rfl hne
      | cons => rfl
  | case3 | case6 => cases h
  | case4 w step rest bytes hne count heq w' hcount ih =>
      rw [ih h, WriteScript.left_cons hne, heq]
      rfl
  | case5 w step rest bytes hne cause heq w' hcause ih =>
      rw [ih h, WriteScript.left_cons hne, heq]
      rfl

theorem writeAll_past {bytes : Bytes} {endpoint : String} {t : Transport} (w : World)
    (h : writeObstacle? t bytes = none) : ∃ w', writeAll bytes ⟨.connected endpoint t, w⟩ =
      .ok () ⟨.connected endpoint (t.past bytes), w'⟩ := by
  rw [writeObstacle?, Option.or_eq_none_iff] at h
  have hwrite := (writeSteps_sends endpoint w t.writes bytes).1
  rw [h.1] at hwrite
  have hleft := writeSteps_left hwrite
  simp only [writeAll]
  rcases hw : writeSteps endpoint w t.writes bytes with ⟨result, writes, w'⟩
  rw [hw] at hwrite hleft
  obtain rfl : result = .ok () := hwrite
  obtain rfl : writes = _ := hleft
  obtain ⟨hflush, htail, -⟩ := flushStep_ends endpoint w' t.flushes
  rcases hf : flushStep endpoint w' t.flushes with ⟨result, flushes, w''⟩
  rw [hf] at hflush htail
  rw [h.2] at hflush
  obtain rfl : result = .ok () := hflush
  obtain rfl : flushes = _ := htail
  exact ⟨w'', rfl⟩

/-- The first obstacle is what writing a request fails with. -/
theorem writeBoth_ends (frame : RequestFrame) (endpoint : String) (t : Transport) (w : World) :
    outcome ((do writeAll frame.head; writeAll frame.body : Action Unit)
        ⟨.connected endpoint t, w⟩) = ending endpoint (t.requestObstacle? frame) ∧
      (t.requestObstacle? frame = none → ∃ w',
        (do writeAll frame.head; writeAll frame.body : Action Unit) ⟨.connected endpoint t, w⟩ =
          .ok () ⟨.connected endpoint ((t.past frame.head).past frame.body), w'⟩) := by
  have hhead := (writeAll_ends frame.head endpoint t w).1
  simp only [Bind.bind, EStateM.bind]
  cases hobstacle : writeObstacle? t frame.head with
  | some cause =>
      rw [hobstacle] at hhead
      have hrequest : t.requestObstacle? frame = some cause := by
        rw [Transport.requestObstacle?, hobstacle]
        rfl
      rw [hrequest]
      rcases hr : writeAll frame.head ⟨.connected endpoint t, w⟩ with ⟨⟨⟩, l⟩ | ⟨e, l⟩ <;>
        rw [hr] at hhead
      · cases hhead
      · exact ⟨hhead, by rintro ⟨⟩⟩
  | none =>
      obtain ⟨w', hr⟩ := writeAll_past w hobstacle
      rw [hr, Transport.requestObstacle?, hobstacle, Option.none_or]
      exact ⟨(writeAll_ends frame.body endpoint (t.past frame.head) w').1, writeAll_past w'⟩

end Link

/-! ## Responses -/

namespace ReadScript

/-- What reading a response comes to, with the octets `seen` already there: all octets up to the end
of the response, or to the end of the stream, or the first failure before that. After octets up to
`limit` reads in a row that signals cut short are tried again; `retries` of them are left. -/
def response (endpoint : String) (limit : Nat) :
    (retries : Nat) → (seen : Bytes) → List (Cued ReadStep) → Except TransportError Bytes
  | _, seen, [] => .ok seen
  | retries, seen, step :: rest =>
      if Response.isComplete seen then .ok seen
      else
        match step.what with
        | .eof => .ok seen
        | .data bytes =>
            if bytes = [] then .ok seen else response endpoint limit limit (seen ++ bytes) rest
        | .fail cause =>
            match cause.isInterrupt, retries with
            | true, retries + 1 => response endpoint limit retries seen rest
            | _, _ => Link.reported endpoint (.error cause)

theorem response_of_complete {seen : Bytes} (h : Response.isComplete seen = true)
    (endpoint : String) (limit retries : Nat) (reads : List (Cued ReadStep)) :
    response endpoint limit retries seen reads = .ok seen := by
  cases reads with
  | nil => rfl
  | cons step rest => rw [response, if_pos h]

/-- A read that fails while the response is not complete is what becomes of it, unless a signal is
what cuts the read short. -/
theorem response_of_failure {chunks : List Bytes} (hchunks : ∀ chunk ∈ chunks, chunk ≠ [])
    {seen : Bytes} (hincomplete : Response.isComplete (seen ++ chunks.flatten) = false)
    {cause : IoError} (hcause : cause.isInterrupt = false) (endpoint : String) (limit retries : Nat)
    (cancels : Bool) (rest : List (Cued ReadStep)) :
    response endpoint limit retries seen
        (chunks.map (⟨.data ·, false⟩) ++ ⟨.fail cause, cancels⟩ :: rest) =
      Link.reported endpoint (.error cause) := by
  have hseen : ¬ Response.isComplete seen = true := fun h => by
    rw [Response.isComplete_append h] at hincomplete
    cases hincomplete
  induction chunks generalizing seen retries with
  | nil =>
      rw [List.map_nil, List.nil_append, response, if_neg hseen]
      simp only [hcause]
  | cons chunk chunks ih =>
      obtain ⟨hchunk, hchunks⟩ := List.forall_mem_cons.1 hchunks
      rw [List.flatten_cons, ← List.append_assoc] at hincomplete
      have hmore : ¬ Response.isComplete (seen ++ chunk) = true := fun h => by
        rw [Response.isComplete_append h] at hincomplete
        cases hincomplete
      rw [List.map_cons, List.cons_append, response, if_neg hseen]
      simp only [if_neg hchunk]
      exact ih hchunks hincomplete limit hmore

/-- A response that is received is as good as the one on the connection: of a complete one the last
octets may be missing. -/
inductive Meets : (received expected : Except TransportError Bytes) → Prop
  | whole (s : Bytes) : Meets (.ok s) (.ok s)
  | enough {raw s : Bytes} : Response.isComplete raw = true → raw <+: s → Meets (.ok raw) (.ok s)
  | failure (e : TransportError) : Meets (.error e) (.error e)

theorem Meets.refl (r : Except TransportError Bytes) : Meets r r := by
  cases r with
  | ok s => exact .whole s
  | error e => exact .failure e

/-- Octets behind a complete response need not be received. -/
theorem Meets.append {received : Except TransportError Bytes} {s : Bytes}
    (h : Meets received (.ok s)) (hs : Response.isComplete s = true) (more : Bytes) :
    Meets received (.ok (s ++ more)) := by
  cases h with
  | whole => exact .enough hs (List.prefix_append ..)
  | enough hraw hfront => exact .enough hraw (hfront.trans (List.prefix_append ..))

end ReadScript

namespace Transport

open ReadScript

/-- A read that does not fail ends the response or begins it. -/
theorem response_of_read {t t' : Transport} {room : Nat} {chunk seen : Bytes} {cancels : Bool}
    (h : t.read room = (.ok chunk, cancels, t')) (hroom : 0 < room)
    (hseen : Response.isComplete seen = false) (endpoint : String) (limit retries : Nat) :
    (chunk = [] → response endpoint limit retries seen t.reads = .ok seen) ∧
      (chunk ≠ [] → ∀ received,
        Meets received (response endpoint limit limit (seen ++ chunk) t'.reads) →
        Meets received (response endpoint limit retries seen t.reads)) := by
  have hincomplete : ¬ Response.isComplete seen = true := Bool.eq_false_iff.1 hseen
  rcases t with ⟨tls, reads, writes, flushes⟩
  cases reads with
  | nil =>
      cases h
      exact ⟨fun _ => rfl, fun hne => absurd rfl hne⟩
  | cons step rest =>
      rcases step with ⟨what, cancels'⟩
      cases what with
      | eof =>
          cases h
          exact ⟨fun _ => by simp only [response, if_neg hincomplete], fun hne => absurd rfl hne⟩
      | fail cause => cases h
      | data bytes =>
          simp only [read] at h
          simp only [response, if_neg hincomplete]
          split at h
          · cases h
            refine ⟨fun hnil => if_pos hnil, fun hne received hmeets => ?_⟩
            rwa [if_neg hne]
          · rename_i hlong
            cases h
            -- There is more than the read has room for, and it may be more than the response needs.
            have hbytes : bytes ≠ [] := by
              rintro rfl
              exact hlong (Nat.zero_le _)
            have hdrop : bytes.drop room ≠ [] := by
              rw [Ne, List.drop_eq_nil_iff]
              exact hlong
            have hall : seen ++ bytes.take room ++ bytes.drop room = seen ++ bytes := by
              rw [List.append_assoc, List.take_append_drop]
            refine ⟨fun hnil => ?_, fun _ received hmeets => ?_⟩
            · rcases List.take_eq_nil_iff.1 hnil with hzero | hnil
              · exact absurd hzero (Nat.pos_iff_ne_zero.1 hroom)
              · exact absurd hnil hbytes
            rw [if_neg hbytes]
            cases hcomplete : Response.isComplete (seen ++ bytes.take room) with
            | true =>
                rw [response_of_complete hcomplete] at hmeets
                rw [← hall, response_of_complete (Response.isComplete_append hcomplete _)]
                exact hmeets.append hcomplete _
            | false =>
                simp only [response, hcomplete, Bool.false_eq_true, if_false, if_neg hdrop, hall]
                  at hmeets
                exact hmeets

end Transport

namespace Link

open ReadScript

/-- How a read with retries goes on towards the response. -/
theorem readRetrying_response (endpoint : String) {room : Nat} (hroom : 0 < room) {seen : Bytes}
    (hseen : Response.isComplete seen = false) (limit retries : Nat) (t : Transport) (w : World) :
    match readRetrying endpoint room retries t w with
    | (.error e, _, _) => response endpoint limit retries seen t.reads = .error e
    | (.ok chunk, t', _) => t'.tls = t.tls ∧
        (chunk = [] → response endpoint limit retries seen t.reads = .ok seen) ∧
        (chunk ≠ [] → ∀ received,
          Meets received (response endpoint limit limit (seen ++ chunk) t'.reads) →
          Meets received (response endpoint limit retries seen t.reads)) := by
  have hincomplete : ¬ Response.isComplete seen = true := Bool.eq_false_iff.1 hseen
  have hfail {t t' : Transport} {cause : IoError} {cancels : Bool} (retries : Nat)
      (h : t.read room = (.error cause, cancels, t'))
      (hlast : cause.isInterrupt = false ∨ retries = 0) :
      response endpoint limit retries seen t.reads = reported endpoint (.error cause) := by
    rw [Transport.reads_of_error h]
    simp only [response, if_neg hincomplete]
    rcases hlast with hcause | rfl
    · rw [hcause]
    · cases cause.isInterrupt <;> rfl
  fun_induction readRetrying endpoint room retries t w with
  | case1 retries t w cancels t' w' bytes hr =>
      have htls := t.tls_read room
      rw [hr] at htls
      exact ⟨htls, Transport.response_of_read hr hroom hseen endpoint limit retries⟩
  | case2 t w cancels t' w' cause hinterrupt hr =>
      have htimeout : cause.isTimeout = false := by
        cases htimeout : cause.isTimeout with
        | false => rfl
        | true =>
            rw [IoError.not_isInterrupt_of_isTimeout htimeout] at hinterrupt
            cases hinterrupt
      change response endpoint limit 0 seen t.reads = _
      rw [hfail 0 hr (.inr rfl), reported_error, htimeout]
      rfl
  | case3 t w cancels t' w' cause hinterrupt retries hr ih =>
      have htls := t.tls_read room
      rw [hr] at htls
      have hstep : response endpoint limit (retries + 1) seen t.reads =
          response endpoint limit retries seen t'.reads := by
        rw [Transport.reads_of_error hr]
        simp only [response, if_neg hincomplete, hinterrupt]
      rw [hstep]
      rcases hrest : readRetrying endpoint room retries t' w' with ⟨e | chunk, t'', w''⟩ <;>
        rw [hrest] at ih
      · exact ih
      · exact ⟨ih.1.trans htls, ih.2⟩
  | case4 retries t w cancels t' w' cause hinterrupt htimeout hr =>
      change response endpoint limit retries seen t.reads = _
      rw [hfail retries hr (.inl (Bool.eq_false_iff.2 hinterrupt)), reported_error, htimeout]
      rfl
  | case5 retries t w cancels t' w' cause hinterrupt htimeout hr =>
      change response endpoint limit retries seen t.reads = _
      rw [hfail retries hr (.inl (Bool.eq_false_iff.2 hinterrupt)), reported_error,
        Bool.eq_false_iff.2 htimeout]
      rfl

/-- One read either fails as the response does, or ends the response, or goes on with it. -/
theorem read_response (endpoint : String) {seen : Bytes}
    (hseen : ¬ Response.isComplete seen = true) (t : Transport) (w : World) :
    let whole := response endpoint (retryLimit t.tls) (retryLimit t.tls)
    match read readChunk ⟨.connected endpoint t, w⟩ with
    | .error e _ => whole seen t.reads = .error e
    | .ok chunk l => ∃ t' w', l = ⟨.connected endpoint t', w'⟩ ∧ t'.tls = t.tls ∧
        (chunk = [] → whole seen t.reads = .ok seen) ∧
        (chunk ≠ [] → ∀ received,
          Meets received (whole (seen ++ chunk) t'.reads) → Meets received (whole seen t.reads)) := by
  have h := readRetrying_response endpoint (by decide : 0 < readChunk)
    (Bool.eq_false_iff.2 hseen) (retryLimit t.tls) (retryLimit t.tls) t w
  simp only [read]
  rcases hr : readRetrying endpoint readChunk (retryLimit t.tls) t w with ⟨e | chunk, t', w'⟩ <;>
    rw [hr] at h
  · exact h
  · exact ⟨t', w', rfl, h⟩

/-- What is received is the response on the connection. -/
theorem receive_meets (buffer : ReceiveBuffer) (endpoint : String) (t : Transport) (w : World) :
    Meets (outcome (receive buffer ⟨.connected endpoint t, w⟩))
      (response endpoint (retryLimit t.tls) (retryLimit t.tls) buffer.bytes t.reads) := by
  generalize hl : (⟨.connected endpoint t, w⟩ : Link) = l
  fun_induction receive buffer l generalizing t w with
  | case1 buffer l hcomplete =>
      rw [response_of_complete hcomplete]
      exact .whole _
  | case2 buffer l hcomplete e l' hr =>
      subst hl
      have hread := read_response endpoint hcomplete t w
      rw [hr] at hread
      rw [show response _ _ _ _ _ = _ from hread]
      exact .failure e
  | case3 buffer l hcomplete l' hr =>
      subst hl
      have hread := read_response endpoint hcomplete t w
      rw [hr] at hread
      obtain ⟨t', w', -, -, hend, -⟩ := hread
      rw [hend rfl]
      exact .whole _
  | case4 buffer l hcomplete chunk l' hr hne ih =>
      subst hl
      have hread := read_response endpoint hcomplete t w
      rw [hr] at hread
      obtain ⟨t', w', hl', htls, -, hmore⟩ := hread
      have hlater := ih t' w' hl'.symm
      rw [htls] at hlater
      exact hmore hne _ hlater

end Link

/-! ## Exchanges -/

/-- What a request over this connection comes to. It has to be written and its response received,
or else the first failure on the way is all there is; and of the response its reply is read. -/
def Transport.answer (t : Transport) (endpoint : String) (frame : RequestFrame) :
    Except RpcError Reply :=
  let limit := Link.retryLimit t.tls
  match t.requestObstacle? frame, ReadScript.response endpoint limit limit [] t.reads with
  | some cause, _ => .error (.transport (.write endpoint cause))
  | none, .error e => .error (.transport e)
  | none, .ok raw => (Response.parse raw .fresh).1

namespace Client

variable {c c' : Client} {h : Handle} {endpoint : String} {t : Transport}

theorem outcome_noting (uri : String) (x : Action Reply) (c : Client) :
    outcome (noting uri x c) = outcome (x c) := by
  rw [noting]
  cases x c <;> rfl

/-- A request meets the first obstacle, or is written. -/
theorem send_ends (frame : RequestFrame) (hc : c.channel = .connected endpoint t) :
    (∀ cause, t.requestObstacle? frame = some cause →
      outcome (send frame c) = .error (.transport (.write endpoint cause))) ∧
    (t.requestObstacle? frame = none → ∃ t' world, t'.tls = t.tls ∧ t'.reads = t.reads ∧
      send frame c = .ok () { c with channel := .connected endpoint t', world }) := by
  obtain ⟨hends, hpast⟩ := Link.writeBoth_ends frame endpoint t c.world
  have hlink : c.link = ⟨.connected endpoint t, c.world⟩ := by rw [link, hc]
  constructor
  · intro cause hcause
    rw [hcause] at hends
    simp only [send, onLink, hlink]
    rcases hr : (do Link.writeAll frame.head; Link.writeAll frame.body : Link.Action Unit)
      ⟨.connected endpoint t, c.world⟩ with ⟨⟨⟩, l⟩ | ⟨e, l⟩ <;> rw [hr] at hends <;> cases hends
    rfl
  · intro hnone
    obtain ⟨world, hr⟩ := hpast hnone
    refine ⟨(t.past frame.head).past frame.body, world, rfl, rfl, ?_⟩
    simp only [send, onLink, hlink, hr]
    rfl

/-- An exchange comes to what its connection says. -/
theorem transact_answer (uri : String) (body : Bytes) (hc : c.channel = .connected endpoint t)
    (hh : c.handle = some h) : outcome (transact uri body c) = t.answer endpoint
      (.post (c.options.controller.requestUri uri) body h.hostName h.port h.session) := by
  let frame :=
    RequestFrame.post (c.options.controller.requestUri uri) body h.hostName h.port h.session
  have hx : outcome (transact uri body c) = outcome ((do
      send frame
      let raw ← closing (onLink (Link.receive .empty))
      takeResponse raw : Action Reply) (c.note (.request uri h frame))) := by
    simp only [transact, Client.frame, Bind.bind, EStateM.bind, hh]
    exact outcome_noting ..
  obtain ⟨hstopped, hwritten⟩ := send_ends (c := c.note (.request uri h frame)) frame hc
  rw [hx, Transport.answer]
  simp only [Bind.bind, EStateM.bind]
  cases hobstacle : t.requestObstacle? frame with
  | some cause =>
      have hsend := hstopped cause hobstacle
      rcases hr : send frame (c.note (.request uri h frame)) with ⟨⟨⟩, d⟩ | ⟨e, d⟩ <;>
        rw [hr] at hsend <;> cases hsend
      rfl
  | none =>
      obtain ⟨t', world, htls, hreads, hsend⟩ := hwritten hobstacle
      have hmeets := Link.receive_meets .empty endpoint t' world
      rw [htls, hreads, show ReceiveBuffer.empty.bytes = [] from rfl] at hmeets
      generalize ReadScript.response endpoint _ _ _ _ = response at hmeets ⊢
      rw [hsend]
      simp only [closing, onLink, link]
      rcases hr : Link.receive .empty ⟨.connected endpoint t', world⟩ with ⟨raw, l⟩ | ⟨e, l⟩ <;>
        rw [hr] at hmeets
      · obtain ⟨_, -, -, hreply⟩ := takeResponse_eq (h := h) raw
          (c := (({ c.note (.request uri h frame) with
            channel := .connected endpoint t', world } : Client).withLink l).hangUp) hh
        refine hreply.trans ((parse_fst raw h.session .fresh).trans ?_)
        cases hmeets with
        | whole => rfl
        | enough hcomplete hfront =>
            exact congrArg Prod.fst (Response.parse_of_prefix hfront hcomplete .fresh)
      · cases hmeets
        rfl

/-- A signal that meets the second flush is what the request comes to, though a reply is there. -/
example : Transport.answer
    ⟨false, [⟨.data (octets "HTTP/1.0 200 OK\r\n\r\n[]"), false⟩], [],
      [⟨.done, false⟩, ⟨.fail (.ofKind .interrupted), false⟩]⟩
      "node-a:9500" ⟨octets "POST", octets "[]"⟩ =
    .error (.transport (.write "node-a:9500" (.ofKind .interrupted))) := by decide +kernel

end Client

end ClusterRpc
