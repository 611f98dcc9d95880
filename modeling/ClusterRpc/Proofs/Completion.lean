import ClusterRpc.Proofs.Coupling
import ClusterRpc.Proofs.Heading

/-!
# A reply does not depend on how its octets arrive

A one-shot exchange reads until its response is complete, or until the stream ends. What it makes of
the octets is what it would make of all of them at once: the header block, the length it declares
and the body up to that length are settled as soon as the response is complete.
-/

namespace ClusterRpc

/-! ## Complete responses -/

namespace Response

theorem isComplete_iff {s : Bytes} : isComplete s = true ↔ ∃ head body length,
    splitHead s = some (head, body) ∧ (ResponseHead.parse head).contentLength = some length ∧
      length ≤ body.length := by
  rw [isComplete]
  constructor
  · intro h
    split at h
    · cases h
    · rename_i head body hsplit
      split at h
      · cases h
      · rename_i length hlength
        exact ⟨head, body, length, hsplit, hlength, of_decide_eq_true h⟩
  · rintro ⟨head, body, length, hsplit, hlength, hle⟩
    simp only [hsplit, hlength]
    exact decide_eq_true hle

/-- A response stays complete with octets behind it. -/
theorem isComplete_append {s : Bytes} (h : isComplete s = true) (t : Bytes) :
    isComplete (s ++ t) = true := by
  obtain ⟨head, body, length, hsplit, hlength, hle⟩ := isComplete_iff.1 h
  refine isComplete_iff.2 ⟨head, body ++ t, length, splitHead_append hsplit t, hlength, ?_⟩
  rw [List.length_append]
  exact Nat.le_add_right_of_le hle

/-- Octets behind a complete response make no difference. -/
theorem parse_append {s : Bytes} (h : isComplete s = true) (t : Bytes) (session : Session) :
    parse (s ++ t) session = parse s session := by
  obtain ⟨head, body, length, hsplit, hlength, hle⟩ := isComplete_iff.1 h
  have hbody : declaredBody (ResponseHead.parse head) (body ++ t) =
      declaredBody (ResponseHead.parse head) body := by
    have hle' : length ≤ (body ++ t).length := by
      rw [List.length_append]
      omega
    simp only [declaredBody, hlength, if_pos hle, if_pos hle', List.take_append_of_le_length hle]
  simp only [parse, splitHead_append hsplit t, hsplit, hbody]

/-- What is made of a response is settled by any beginning of it that is complete. -/
theorem parse_of_prefix {p s : Bytes} (hp : p <+: s) (h : isComplete p = true)
    (session : Session) : parse p session = parse s session := by
  obtain ⟨t, rfl⟩ := hp
  exact (parse_append h t session).symm

end Response

/-- The header block of a response is what stands in front of its first blank line, whichever of the
two kinds that is. Octets behind change neither where the block ends nor, once the response is
complete, that it is, nor the length that it declares. -/
theorem splitHead_settles (raw head body : Bytes) :
    (splitHead raw = some (head, body) ↔
      ∃ ending, EndsHead ending ∧ raw = head ++ (ending ++ body) ∧
        ∀ n < head.length, ∀ other, EndsHead other → ¬ other <+: raw.drop n) ∧
    (splitHead raw = some (head, body) → ∀ x, splitHead (raw ++ x) = some (head, body ++ x)) ∧
    (Response.isComplete raw = true → ∃ head body length,
      splitHead raw = some (head, body) ∧
      (ResponseHead.parse head).contentLength = some length ∧ length ≤ body.length ∧
      ∀ x, Response.isComplete (raw ++ x) = true ∧
        splitHead (raw ++ x) = some (head, body ++ x)) := by
  refine ⟨splitHead_eq_some_iff, splitHead_append, fun hcomplete => ?_⟩
  obtain ⟨head, body, length, hsplit, hlength, hle⟩ := Response.isComplete_iff.1 hcomplete
  exact ⟨head, body, length, hsplit, hlength, hle, fun x =>
    ⟨Response.isComplete_append hcomplete x, splitHead_append hsplit x⟩⟩

/-- A carriage return in front of two line feeds stays with the block. -/
example : splitHead [0x41, 0x0D, 0x0A, 0x0A, 0x0A, 0x0D, 0x0A, 0x0D] =
    some ([0x41, 0x0D], [0x0A, 0x0D, 0x0A, 0x0D]) := by decide

/-! ## Reading -/

/-- With `seen` already there, reading takes in the octets `s`, in pieces that are not empty, up to
the end of the stream. Once the response is complete nothing that follows counts, be it octets or a
failure. -/
inductive Brings : (seen s : Bytes) → List (Cued ReadStep) → Prop
  | complete {seen : Bytes} (s : Bytes) (reads : List (Cued ReadStep)) :
      Response.isComplete seen = true → Brings seen s reads
  | spent (seen : Bytes) : Brings seen [] []
  | ended (seen : Bytes) (cancels : Bool) (reads : List (Cued ReadStep)) :
      Brings seen [] (⟨.eof, cancels⟩ :: reads)
  | arrives {seen s chunk : Bytes} {cancels : Bool} {reads : List (Cued ReadStep)} :
      chunk ≠ [] → Brings (seen ++ chunk) s reads →
        Brings seen (chunk ++ s) (⟨.data chunk, cancels⟩ :: reads)

/-- One read of a connection that does not fail. Of octets for which there is no room the rest stays
for the next read. -/
theorem Brings.read {seen s : Bytes} {t : Transport} (h : Brings seen s t.reads)
    (hc : Response.isComplete seen = false) (room : Nat) (hroom : 0 < room) :
    ∃ chunk cancels t', t.read room = (.ok chunk, cancels, t') ∧
      (chunk = [] ∧ s = [] ∨
        chunk ≠ [] ∧ ∃ rest, s = chunk ++ rest ∧ Brings (seen ++ chunk) rest t'.reads) := by
  rcases t with ⟨tls, reads, writes, flushes⟩
  cases h with
  | complete _ _ h => rw [h] at hc; cases hc
  | spent => exact ⟨[], _, _, rfl, .inl ⟨rfl, rfl⟩⟩
  | ended => exact ⟨[], _, _, rfl, .inl ⟨rfl, rfl⟩⟩
  | @arrives _ s chunk cancels reads hne h =>
      by_cases hle : chunk.length ≤ room
      · refine ⟨chunk, cancels, ⟨tls, reads, writes, flushes⟩, ?_, .inr ⟨hne, s, rfl, h⟩⟩
        simp [Transport.read, hle]
      · have htake : chunk.take room ≠ [] := by
          intro hnil
          have := congrArg List.length hnil
          simp only [List.length_take, List.length_nil] at this
          omega
        have hdrop : chunk.drop room ≠ [] := by
          intro hnil
          have := congrArg List.length hnil
          simp only [List.length_drop, List.length_nil] at this
          omega
        refine ⟨chunk.take room, false,
          ⟨tls, ⟨.data (chunk.drop room), cancels⟩ :: reads, writes, flushes⟩, ?_,
          .inr ⟨htake, chunk.drop room ++ s, ?_, .arrives hdrop ?_⟩⟩
        · simp [Transport.read, hle]
        · rw [← List.append_assoc, List.take_append_drop]
        · rwa [List.append_assoc, List.take_append_drop]

namespace Link

theorem read_of_ok {room : Nat} {endpoint : String} {t t' : Transport} {w : World} {bytes : Bytes}
    {cancels : Bool} (h : t.read room = (.ok bytes, cancels, t')) :
    read room ⟨.connected endpoint t, w⟩ =
      .ok bytes ⟨.connected endpoint t', (w.cue cancels).emit (.read bytes)⟩ := by
  simp only [read]
  rw [readRetrying, h]

/-- What is received is all there is, or enough. -/
theorem receive_of_brings (buffer : ReceiveBuffer) {s : Bytes} (endpoint : String) {t : Transport}
    (w : World) (h : Brings buffer.bytes s t.reads) : ∃ raw l,
      receive buffer ⟨.connected endpoint t, w⟩ = .ok raw l ∧ l.channel.isConnected = true ∧
        (raw = buffer.bytes ++ s ∨ Response.isComplete raw = true ∧ raw <+: buffer.bytes ++ s) := by
  -- A read that fails is excluded while the response is not complete, so only three cases remain.
  generalize hl : (⟨.connected endpoint t, w⟩ : Link) = l
  fun_induction receive buffer l generalizing s t w with
  | case1 buffer l hc =>
      subst hl
      exact ⟨_, _, rfl, rfl, .inr ⟨hc, List.prefix_append ..⟩⟩
  | case2 buffer l hc e l' hr =>
      subst hl
      obtain ⟨chunk, cancels, t', hread, -⟩ :=
        h.read (Bool.eq_false_iff.2 hc) readChunk (by decide)
      rw [read_of_ok hread] at hr
      cases hr
  | case3 buffer l hc l' hr =>
      subst hl
      obtain ⟨chunk, cancels, t', hread, hcases⟩ :=
        h.read (Bool.eq_false_iff.2 hc) readChunk (by decide)
      rw [read_of_ok hread] at hr
      cases hr
      rcases hcases with ⟨-, rfl⟩ | ⟨hne, -⟩
      · exact ⟨_, _, rfl, rfl, .inl (List.append_nil _).symm⟩
      · exact absurd rfl hne
  | case4 buffer l hc chunk l' hr hne ih =>
      subst hl
      obtain ⟨chunk, cancels, t', hread, hcases⟩ :=
        h.read (Bool.eq_false_iff.2 hc) readChunk (by decide)
      rw [read_of_ok hread] at hr
      cases hr
      rcases hcases with ⟨rfl, -⟩ | ⟨-, rest, rfl, hrest⟩
      · exact absurd rfl hne
      · obtain ⟨raw, l, hr, hopen, hraw⟩ := ih _ hrest rfl
        rw [show (buffer.append chunk).bytes ++ rest = buffer.bytes ++ (chunk ++ rest) from
          List.append_assoc ..] at hraw
        exact ⟨raw, l, hr, hopen, hraw⟩

end Link

/-! ## Exchanges -/

namespace Client

section

variable {uri : String} {body : Bytes} {c c' : Client} {h : Handle}
  {endpoint : String} {t : Transport} {s : Bytes}

/-- The response is received and the channel closed. -/
theorem receive_of_brings (hc : c.channel = .connected endpoint t) (hs : Brings [] s t.reads) :
    ∃ raw world, closing (onLink (Link.receive .empty)) c =
        .ok raw { c with channel := .disconnected, world } ∧
      c.world.Untouched world ∧
      ∀ session, Response.parse raw session = Response.parse s session := by
  obtain ⟨raw, l, hreceive, hopen, hraw⟩ :=
    Link.receive_of_brings .empty endpoint c.world hs
  have hlink : c.link = ⟨.connected endpoint t, c.world⟩ := by rw [link, hc]
  have hreceived := (Link.couples_receive .empty).untouched c.link
  rw [hlink, hreceive] at hreceived
  refine ⟨raw, l.world.emit .shutdown, ?_, hreceived.trans (World.untouched_emit ..), ?_⟩
  · simp only [closing, onLink, hlink, hreceive]
    rw [hangUp_eq (c := c.withLink l) hopen]
    rfl
  · intro session
    rcases hraw with rfl | ⟨hcomplete, hprefix⟩
    · rfl
    · exact Response.parse_of_prefix hprefix hcomplete session

theorem takeResponse_untouched (raw : Bytes) (hh : c.handle = some h) :
    ∃ world, c.world.Untouched world ∧
      outcome (takeResponse raw c) = (Response.parse raw h.session).1 ∧
      finalState (takeResponse raw c) =
        { c with
          handle := some { h with session := (Response.parse raw h.session).2 }
          world } := by
  obtain ⟨world, hlearn, huntouched⟩ :=
    learn_untouched c h (Response.block? raw) (Response.parse raw h.session).2
  refine ⟨world, huntouched, ?_⟩
  rw [← hlearn]
  simp only [takeResponse, hh]
  cases (Response.parse raw h.session).1 <;> exact ⟨rfl, rfl⟩

/-- What becomes of a request that is written over an open channel which brings `s`: the reply is
that of `s`, the session takes in its header block, and nothing else is touched. -/
theorem transact_of_brings (hwrite : writeRequest uri body c = .ok () c')
    (hc : c.channel = .connected endpoint t) (hh : c.handle = some h)
    (hs : Brings [] s t.reads) : ∃ world, c.world.Untouched world ∧
      outcome (transact uri body c) = (Response.parse s h.session).1 ∧
      finalState (transact uri body c) =
        { c with
          channel := .disconnected
          handle := some { h with session := (Response.parse s h.session).2 }
          world } := by
  obtain ⟨frame, hframe, hsend⟩ := writeRequest_eq_ok hwrite hh
  obtain ⟨writes, flushes, sent, rfl, huntouched⟩ := writeRequest_ok hc hwrite
  obtain ⟨raw, received, hreceive, huntouched', hparse⟩ :=
    receive_of_brings (t := { t with writes, flushes })
      (c := { c with channel := .connected endpoint { t with writes, flushes }, world := sent })
      rfl hs
  obtain ⟨taken, huntouched'', houtcome, hfinal⟩ := takeResponse_untouched
    (c := { c with channel := .disconnected, world := received }) raw hh
  rw [hparse] at houtcome hfinal
  refine ⟨taken.emit (.ofResult uri (Response.parse s h.session).1),
    ((huntouched.trans huntouched').trans huntouched'').trans (World.untouched_emit ..), ?_⟩
  have hrespond : transact uri body c = noting uri (fun _ =>
      takeResponse raw { c with channel := .disconnected, world := received }) c := by
    simp only [transact, Bind.bind, EStateM.bind, hframe, noting, hsend, hreceive]
  rw [hrespond]
  simp only [noting]
  rcases hr : takeResponse raw { c with channel := .disconnected, world := received } with
    ⟨r, d⟩ | ⟨e, d⟩ <;> rw [hr] at houtcome hfinal <;> obtain rfl : d = _ := hfinal
  · exact ⟨houtcome, by rw [← houtcome]; rfl⟩
  · exact ⟨houtcome, by rw [← houtcome]; rfl⟩

/-- A request that is not written brings no reply. -/
theorem transact_of_unwritten {e : RpcError} (hwrite : writeRequest uri body c = .error e c') :
    outcome (transact uri body c) = .error e ∧
      (finalState (transact uri body c)).handle = c'.handle := by
  simp only [writeRequest, transact, Bind.bind, EStateM.bind] at hwrite ⊢
  rcases hframe : frame uri body c with ⟨frame, d⟩ | ⟨e', d⟩ <;> rw [hframe] at hwrite
  · dsimp only at hwrite
    simp only [noting, EStateM.bind, hwrite]
    exact ⟨rfl, rfl⟩
  · cases hwrite
    exact ⟨rfl, rfl⟩

end

/-! ## What counts of a connection -/

/-- There may be anything to read. -/
def anything : Likeness := fun _ _ _ _ => True

/-- The connection that an exchange is made over brings `s`. -/
def Awaits (useRedirect : Bool) (s : Bytes) (c : Client) : Prop :=
  ∀ c', ensureConnected useRedirect c = .ok () c' →
    ∃ endpoint t, c'.channel = .connected endpoint t ∧ Brings [] s t.reads

section

variable {uri : String} {body : Bytes} {useRedirect : Bool} {s : Bytes} {c c' d : Client}
  {h : Handle}

theorem exchange_of_connected (hr : ensureConnected useRedirect c = .ok () c') :
    exchange uri body useRedirect c = transact uri body c' := by
  simp only [exchange, Bind.bind, EStateM.bind, hr]

/-- Over connections that bring the same octets two exchanges end alike, and leave the same handle.
-/
theorem coupled_exchange (hcd : Coupled anything c d) (hc : Awaits useRedirect s c)
    (hd : Awaits useRedirect s d) :
    outcome (exchange uri body useRedirect d) = outcome (exchange uri body useRedirect c) ∧
      (finalState (exchange uri body useRedirect d)).handle =
        (finalState (exchange uri body useRedirect c)).handle := by
  have hconnect := hcd.ensureConnected useRedirect
  rcases hr : ensureConnected useRedirect c with ⟨⟨⟩, c'⟩ | ⟨e, c'⟩
  · obtain ⟨d', hr', hcd'⟩ := hconnect.ok hr
    rw [exchange_of_connected hr, exchange_of_connected hr']
    have hwrite := (couples_writeRequest uri body).alike c' d' hcd' (Nat.zero_le _)
    rcases hw : writeRequest uri body c' with ⟨⟨⟩, c''⟩ | ⟨e, c''⟩
    · obtain ⟨d'', hw', -⟩ := hwrite.ok hw
      obtain ⟨endpoint, t, hchannel, hs⟩ := hc c' hr
      obtain ⟨endpoint', t', hchannel', hs'⟩ := hd d' hr'
      obtain ⟨h, hh⟩ := handle_of_writeRequest hw
      obtain ⟨_, -, houtcome, hfinal⟩ := transact_of_brings hw hchannel hh hs
      obtain ⟨_, -, houtcome', hfinal'⟩ :=
        transact_of_brings hw' hchannel' (hcd'.handle.trans hh) hs'
      rw [houtcome, hfinal, houtcome', hfinal']
      exact ⟨rfl, rfl⟩
    · obtain ⟨d'', hw', hcd''⟩ := hwrite.error hw
      obtain ⟨houtcome, hhandle⟩ := transact_of_unwritten hw
      obtain ⟨houtcome', hhandle'⟩ := transact_of_unwritten hw'
      rw [houtcome, hhandle, houtcome', hhandle']
      exact ⟨rfl, hcd''.handle⟩
  · obtain ⟨d', hr', hcd'⟩ := hconnect.error hr
    simp only [exchange, Bind.bind, EStateM.bind, hr, hr']
    exact ⟨rfl, hcd'.handle⟩

end

/-- Of the connection of an exchange nothing counts but the octets `s` it brings. However they are
cut, the exchange ends the same and leaves the same session. Once the request is written the reply
and the session are those of `s`, which are those of any beginning of `s` that is complete, and
nothing else is touched. -/
theorem exchange_depends_on_octets (uri : String) (body : Bytes) (useRedirect : Bool) {s : Bytes}
    {c d : Client} (hcd : Coupled anything c d) (hc : Awaits useRedirect s c)
    (hd : Awaits useRedirect s d) :
    (outcome (exchange uri body useRedirect d) = outcome (exchange uri body useRedirect c) ∧
      (finalState (exchange uri body useRedirect d)).handle =
        (finalState (exchange uri body useRedirect c)).handle) ∧
    ∀ c' c'' h, ensureConnected useRedirect c = .ok () c' → c'.handle = some h →
      writeRequest uri body c' = .ok () c'' →
      (∃ world, c'.world.Untouched world ∧
        outcome (exchange uri body useRedirect c) = (Response.parse s h.session).1 ∧
        finalState (exchange uri body useRedirect c) =
          { c' with
            channel := .disconnected
            handle := some { h with session := (Response.parse s h.session).2 }
            world }) ∧
      ∀ p, p <+: s → Response.isComplete p = true →
        Response.parse p h.session = Response.parse s h.session := by
  refine ⟨coupled_exchange hcd hc hd, fun c' c'' h hr hh hw => ⟨?_, fun p hp hcomplete => ?_⟩⟩
  · obtain ⟨endpoint, t, hchannel, hs⟩ := hc c' hr
    rw [exchange_of_connected hr]
    exact transact_of_brings hw hchannel hh hs
  · exact Response.parse_of_prefix hp hcomplete h.session

/-- A response that arrives in one piece, and the same one cut in two with a failure behind it. -/
theorem exchange_of_cut_response :
    let s := octets "HTTP/1.0 200 OK\nContent-Length:2\n\n\x7b\x7d"
    let client (reads : List (Cued ReadStep)) : Client :=
      fresh ⟨.ofHost "a" 9500 false, 1000, false, none, 0, 0⟩
        ⟨[⟨.answered ⟨false, reads, [], []⟩, false⟩], [], false, .memory [] none none, []⟩
    let c := client [⟨.data s, false⟩]
    let d := client [⟨.data (s.take 20), false⟩, ⟨.data (s.drop 20), false⟩,
      ⟨.fail (.ofKind .connectionRefused), false⟩]
    Coupled anything c d ∧ Awaits false s c ∧ Awaits false s d ∧
      outcome (exchange "/" [] false d) = outcome (exchange "/" [] false c) := by
  intro s client c d
  have hcomplete : Response.isComplete s = true := by decide +kernel
  have hcd : Coupled anything c d := ⟨rfl, rfl, rfl, rfl, rfl,
    .cons (.answered ⟨_, rfl, trivial⟩) .nil, .disconnected⟩
  have hawaits (reads : List (Cued ReadStep)) (h : Brings [] s reads) :
      Awaits false s (client reads) := by
    rintro c' ⟨⟩
    exact ⟨_, _, rfl, h⟩
  have hc : Awaits false s c := by
    refine hawaits _ ?_
    have hs : Brings [] (s ++ []) [⟨.data s, false⟩] := .arrives (by decide +kernel) (.spent _)
    rwa [List.append_nil] at hs
  have hd : Awaits false s d := by
    refine hawaits _ ?_
    have hs : Brings [] (s.take 20 ++ (s.drop 20 ++ [])) [⟨.data (s.take 20), false⟩,
        ⟨.data (s.drop 20), false⟩, ⟨.fail (.ofKind .connectionRefused), false⟩] :=
      .arrives (by decide +kernel) (.arrives (by decide +kernel) (.complete _ _ hcomplete))
    rwa [List.append_nil, List.take_append_drop] at hs
  exact ⟨hcd, hc, hd, (exchange_depends_on_octets "/" [] false hcd hc hd).1.1⟩

end Client

end ClusterRpc
