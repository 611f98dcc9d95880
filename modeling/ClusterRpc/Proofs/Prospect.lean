import ClusterRpc.Proofs.Answer
import ClusterRpc.Proofs.Conversation

/-!
# What lies before a client

The dials to come are known beforehand, and so is what each connection will bring. A trace tells how
many dials are behind and whether a connection is open; with that it is settled for every request in
a trace which connection it meets and what comes of it. This file ties calls to what lay before
them: the first write, flush or read of an exchange that fails ends the call.
-/

namespace ClusterRpc

/-- The connection that a dial opens, if it is answered. -/
def Dial.connection? : Dial → Option Transport
  | .refused _ => none
  | .answered transport => some transport

theorem World.toOption_answer (w : World) (a : Address) :
    (w.answer 0 a).toOption = w.dials.head?.bind (·.what.connection?) := by
  rw [answer]
  rcases w.dials with - | ⟨⟨failure | transport, cancels⟩, rest⟩ <;> rfl

/-- What leaves a prospect as it is. -/
def Event.isStill : Event → Bool := isApart [.dial, .shutdown]

/-- What leaves a prospect as it is and makes no request. -/
def Event.isIdle : Event → Bool := isApart [.dial, .shutdown, .request]

/-- The dials to come, and the connection that is open, with the endpoint it is named by. -/
structure Prospect where
  dials : List (Cued Dial)
  line : Option (String × Transport)

namespace Prospect

def note (P : Prospect) : Event → Prospect
  | .dial host port _ =>
      { dials := P.dials.tail
        line := (P.dials.head?.bind (·.what.connection?)).map (endpointLabel host port, ·) }
  | .shutdown => { P with line := none }
  | _ => P

def notes (P : Prospect) (events : List Event) : Prospect := events.foldl note P

/-- What comes of each request is what the connection says that is open when it is made. -/
def Settles (P : Prospect) (events : List Event) : Prop :=
  ∀ before uri h frame after, events = before ++ .request uri h frame :: after →
    ∃ endpoint t, (P.notes before).line = some (endpoint, t) ∧
      (turns after).head? = Turn.of (.ofResult uri (t.answer endpoint frame))

section

variable {P : Prospect} {events new : List Event}

@[simp] theorem notes_cons (P : Prospect) (e : Event) (events : List Event) :
    P.notes (e :: events) = (P.note e).notes events := rfl

@[simp] theorem notes_append (P : Prospect) (events new : List Event) :
    P.notes (events ++ new) = (P.notes events).notes new := List.foldl_append

theorem note_of_isStill (P : Prospect) {e : Event} (h : e.isStill = true) : P.note e = P := by
  cases e <;> first | rfl | cases h

theorem notes_of_isStill (P : Prospect) (h : events.all Event.isStill = true) :
    P.notes events = P := by
  induction events with
  | nil => rfl
  | cons e events ih =>
      rw [List.all_cons, Bool.and_eq_true] at h
      rw [notes_cons, P.note_of_isStill h.1, ih h.2]

theorem settles_of_no_request (P : Prospect) (h : events.all (Event.isApart [.request]) = true) :
    P.Settles events := by
  rintro before uri handle frame after rfl
  rw [List.all_append, List.all_cons, Bool.and_eq_true, Bool.and_eq_true] at h
  cases h.2.1

theorem Settles.append (h : P.Settles events) (k : (P.notes events).Settles new) :
    P.Settles (events ++ new) := by
  intro before uri handle frame after heq
  rcases split_append heq with ⟨rest, hevents, rfl⟩ | ⟨middle, rfl, hnew⟩
  · obtain ⟨endpoint, t, hline, hturn⟩ := h before uri handle frame rest hevents
    refine ⟨endpoint, t, hline, ?_⟩
    rw [turns_append, List.head?_append, hturn]
    cases t.answer endpoint frame <;> rfl
  · obtain ⟨endpoint, t, hline, hturn⟩ := k middle uri handle frame after hnew
    rw [← notes_append] at hline
    exact ⟨endpoint, t, hline, hturn⟩

/-- One request and what comes of it. -/
theorem settles_request {uri : String} {h : Handle} {frame : RequestFrame} {endpoint : String}
    {t : Transport} (hline : P.line = some (endpoint, t))
    (hevents : events.all (Event.isApart [.request]) = true)
    (hturn : (turns events).head? = Turn.of (.ofResult uri (t.answer endpoint frame))) :
    P.Settles (.request uri h frame :: events) := by
  rintro before uri' h' frame' after heq
  rcases List.cons_eq_append_iff.1 heq with ⟨rfl, heq⟩ | ⟨before, rfl, rfl⟩
  · cases heq
    exact ⟨endpoint, t, hline, hturn⟩
  · rw [List.all_append, List.all_cons, Bool.and_eq_true, Bool.and_eq_true] at hevents
    cases hevents.2.1

/-! ### Exchanges -/

variable {uri : String} {h : Handle} {frame : RequestFrame} {sent heard : List Event}
  {block : Option Bytes} {result : Except RpcError Reply}

/-- An exchange hangs up and dials nothing. -/
theorem notes_answered (ha : Client.Answers frame h sent heard block result) (P : Prospect) :
    P.notes (.request uri h frame :: (sent ++ (heard ++ [.shutdown])) ++
      ((block.map .learn).toList ++ [.ofResult uri result])) = { P with line := none } := by
  have hsent := P.notes_of_isStill (Event.all_mono ha.sent_all (Event.isApart_of_isAmong rfl))
  have hheard := P.notes_of_isStill (Event.all_mono ha.heard_all (Event.isApart_of_isAmong rfl))
  simp only [notes_append, notes_cons, show P.note (.request uri h frame) = P from rfl, hsent,
    hheard]
  cases block <;> cases result <;> rfl

theorem no_request_answered (ha : Client.Answers frame h sent heard block result) :
    (sent ++ (heard ++ [Event.shutdown]) ++
      ((block.map Event.learn).toList ++ [Event.ofResult uri result])).all
        (Event.isApart [.request]) = true := by
  have hsent : sent.all (Event.isApart [.request]) = true :=
    Event.all_mono ha.sent_all (Event.isApart_of_isAmong rfl)
  have hheard : heard.all (Event.isApart [.request]) = true :=
    Event.all_mono ha.heard_all (Event.isApart_of_isAmong rfl)
  rw [List.all_append, List.all_append, List.all_append, hsent, hheard]
  cases block <;> cases result <;> rfl

end

end Prospect

/-! ## Clients -/

namespace Client

/-- The connection of an open channel. -/
def line (c : Client) : Option (String × Transport) :=
  match c.channel with
  | .connected endpoint t => some (endpoint, t)
  | _ => none

/-- What lies before a client. -/
def prospect (c : Client) : Prospect := ⟨c.world.dials, c.line⟩

/-- Goes on as was to be expected, and leaves these events behind. -/
structure Proceeds (c : Client) (new : List Event) (c' : Client) : Prop where
  trace : c'.world.trace = c.world.trace ++ new
  prospect : c'.prospect = c.prospect.notes new
  settles : c.prospect.Settles new

/-- Goes on as was to be expected. -/
def Follows (c c' : Client) : Prop := ∃ new, c.Proceeds new c'

section

variable {c c' c'' : Client} {new new' : List Event}

theorem Proceeds.trans (h : c.Proceeds new c') (k : c'.Proceeds new' c'') :
    c.Proceeds (new ++ new') c'' where
  trace := by rw [k.trace, h.trace, List.append_assoc]
  prospect := by rw [k.prospect, h.prospect, Prospect.notes_append]
  settles := h.settles.append (h.prospect ▸ k.settles)

theorem Follows.trans (h : Follows c c') (k : Follows c' c'') : Follows c c'' := by
  obtain ⟨_, h⟩ := h
  obtain ⟨_, k⟩ := k
  exact ⟨_, h.trans k⟩

/-- Neither dials nor hangs up nor makes a request. -/
theorem follows_of_grows (hgrows : c.world.Grows Event.isIdle c'.world)
    (hprospect : c'.prospect = c.prospect) : Follows c c' := by
  obtain ⟨new, htrace, hidle⟩ := hgrows
  have hstill : new.all Event.isStill = true := Event.all_mono hidle (Event.isApart_mono rfl)
  refine ⟨new, htrace, by rw [hprospect, c.prospect.notes_of_isStill hstill], ?_⟩
  exact c.prospect.settles_of_no_request (Event.all_mono hidle (Event.isApart_mono rfl))

theorem Follows.refl (c : Client) : Follows c c := follows_of_grows (.refl _) rfl

theorem follows_hangUp (c : Client) : Follows c c.hangUp := by
  rcases c with ⟨options, channel, directory, handle, lastError, delivered, world⟩
  cases channel with
  | connected endpoint t =>
      exact ⟨[.shutdown], rfl, rfl, Prospect.settles_of_no_request _ rfl⟩
  | _ => exact follows_of_grows (.refl _) rfl

theorem follows_takeHandle (c : Client) (hostName : String) (port : Nat) :
    Follows c (c.takeHandle hostName port) := by
  refine follows_of_grows (grows_takeHandle rfl c) ?_
  rw [takeHandle]
  split <;> rfl

/-- A dial meets the next of the dials to come. -/
theorem follows_dial (a : Address) (c : Client) : Follows c (finalState (c.dial a.1 a.2)) := by
  let settings := c.options.transportSettings
  obtain ⟨cancels, htrace⟩ := c.hangUp.world.connect_trace a.1 a.2 settings
  have hdials := (c.hangUp.world.connect_dials a settings).1
  have hanswer := c.hangUp.world.toOption_answer a
  rw [← c.hangUp.world.connect_fst a settings] at hanswer
  have hmeets : c.hangUp.prospect.note (.dial a.1 a.2 settings) =
      ⟨(c.hangUp.world.connect a.1 a.2 settings).2.dials,
        (c.hangUp.world.connect a.1 a.2 settings).1.toOption.map (endpointLabel a.1 a.2, ·)⟩ := by
    rw [hdials, hanswer]
    rfl
  -- Only the dial itself counts, not the flag that goes up meanwhile or the answer that is seen.
  have hnotes (result : Except TransportError Transport) :
      c.hangUp.prospect.notes
        (.dial a.1 a.2 settings :: (Event.ofCue cancels ++ Event.ofAnswer result)) =
      c.hangUp.prospect.note (.dial a.1 a.2 settings) := by
    rw [Prospect.notes_cons]
    refine Prospect.notes_of_isStill _ ?_
    cases cancels <;> cases result <;> rfl
  have hsettles (result : Except TransportError Transport) : c.hangUp.prospect.Settles
      (.dial a.1 a.2 settings :: (Event.ofCue cancels ++ Event.ofAnswer result)) := by
    refine Prospect.settles_of_no_request _ ?_
    cases cancels <;> cases result <;> rfl
  refine (follows_hangUp c).trans ?_
  rw [dial_eq]
  rcases hr : c.hangUp.world.connect a.1 a.2 settings with ⟨e | t, w⟩ <;> rw [hr] at htrace hmeets
  · exact ⟨_, htrace, ((hnotes _).trans hmeets).symm, hsettles _⟩
  · let opened : Client :=
      { c with channel := .connected (endpointLabel a.1 a.2) t, world := w }
    have hopened : Follows c.hangUp opened :=
      ⟨_, htrace, ((hnotes _).trans hmeets).symm, hsettles _⟩
    exact hopened.trans (follows_takeHandle opened a.1 a.2)

/-- What comes of a request is what the open connection says. -/
theorem follows_transact (uri : String) (body : Bytes) {c : Client}
    (hopen : c.channel.isConnected = true) : Follows c (finalState (transact uri body c)) := by
  cases hh : c.handle with
  | none =>
      have hx : transact uri body c = .error (.transport .notConnected) c := by
        simp only [transact, frame, Bind.bind, EStateM.bind, hh]
      rw [hx]
      exact .refl c
  | some h =>
      obtain ⟨endpoint, t, hc⟩ : ∃ endpoint t, c.channel = .connected endpoint t := by
        cases hc : c.channel with
        | connected endpoint t => exact ⟨endpoint, t, rfl⟩
        | _ => rw [hc] at hopen; cases hopen
      have huntouched := (World.passage_untouched.transact uri body).finalState
        (World.Untouched.refl c.world)
      obtain ⟨frame, sent, heard, block, world, hframe, ha, hfinal, htrace⟩ :=
        transact_spec uri body hopen hh
      have hanswer := transact_answer uri body hc hh
      rw [← hframe] at hanswer
      rw [hfinal] at huntouched ⊢
      refine ⟨_, htrace, ?_, ?_⟩
      · rw [Prospect.notes_answered ha]
        exact congrArg (Prospect.mk · none) huntouched.dials
      · rw [List.cons_append]
        refine Prospect.settles_request (P := c.prospect) (by rw [prospect, line, hc])
          (Prospect.no_request_answered ha) ?_
        rw [turns_answered ha, hanswer]
        cases t.answer endpoint frame <;> rfl

theorem follows_followRedirect (uri : String) (targets : RedirectTargets) (c : Client) :
    Follows c (followRedirect uri targets c) := by
  have hgrows : c.world.Grows Event.isIdle
      (c.directory.rememberRedirect targets (c.world.emit (.follow uri targets))).2.2 :=
    (World.grows_emit rfl).trans (Directory.grows_rememberRedirect rfl (fun _ => rfl) ..)
  refine Follows.trans ?_ ((follows_hangUp _).trans (follows_takeHandle ..))
  exact follows_of_grows hgrows
    (congrArg₂ Prospect.mk (c.directory.rememberRedirect_dials targets _) rfl)

end

/-! ## Calls -/

section

variable {c₀ : Client}

theorem searching_follows : Searching (Follows c₀) where
  dialPreferred := fun c h => h.trans (follows_dial c.preferred c)
  dialUntried := fun c e _ h => h.trans (follows_dial (e.hostName, e.port) c)
  load := fun c h => h.trans (follows_of_grows (Directory.grows_ensureLoaded rfl ..)
    (congrArg (Prospect.mk · c.line) (c.directory.ensureLoaded_untouched c.world).dials))
  flag := fun _ _ _ _ h => h.trans (follows_of_grows (.refl _) rfl)

theorem keeps_follows_exchange (uri : String) (body : Bytes) (useRedirect : Bool) :
    Keeps (Follows c₀) (exchange uri body useRedirect) := by
  refine keeps_of_finalState fun c hc => ?_
  have hsearch := searching_follows.ensureConnected useRedirect hc
  simp only [exchange, Bind.bind, EStateM.bind]
  rcases hr : ensureConnected useRedirect c with ⟨⟨⟩, c'⟩ | ⟨e, c'⟩ <;> rw [hr] at hsearch
  · exact hsearch.trans (follows_transact uri body (isConnected_of_ensureConnected hr))
  · exact hsearch

theorem exchanging_follows (allowRedirect : Bool) :
    Exchanging allowRedirect (Follows c₀) fun _ _ => Follows c₀ where
  exchange := fun uri body => keeps_follows_exchange uri body allowRedirect
  kept := fun _ _ _ h => h
  followRedirect := fun _ uri targets c h => h.trans (follows_followRedirect uri targets c)
  accept := fun _ c _ h => h.trans (follows_of_grows (grows_setAuthenticated rfl c) (by
    rw [setAuthenticated]
    split <;> rfl))

theorem follows_call (uri : String) (payload : Json) (allowRedirect : Bool) (c : Client) :
    Follows c (finalState (call uri payload allowRedirect c)) :=
  (((exchanging_follows allowRedirect).request uri payload).recording fun _ _ h =>
    h.trans (follows_of_grows (.refl _) rfl)).finalState (.refl c)

end

/-- A call ends whatever the controllers do, and is a conversation within bounds: it makes at most
five requests and another one only on account of a reply; and what it gives back is neither a
redirect that it may follow nor, if it is not a login, a challenge. What it writes are these
requests. What comes of a request is what lay before the call: as soon as its connection fails it in
a write, a flush or a read, or brings what cannot be read as a reply, the call ends with that
failure and makes no other request. -/
theorem call_conversation (uri : String) (payload : Json) (allowRedirect : Bool) (c : Client) :
    ∃ new, (finalState (call uri payload allowRedirect c)).world.trace = c.world.trace ++ new ∧
      c.world.ledger.Admits Ledger.Faithful new ∧
      Conversation uri allowRedirect (outcome (call uri payload allowRedirect c)) (turns new) ∧
      ∀ before v h frame after, new = before ++ .request v h frame :: after →
        ∃ endpoint t, (c.prospect.notes before).line = some (endpoint, t) ∧
          (turns after).head? = Turn.of (.ofResult v (t.answer endpoint frame)) ∧
          ∀ e, t.answer endpoint frame = .error e →
            outcome (call uri payload allowRedirect c) = .error e ∧
              ∀ later ∈ after, later.kind ≠ .request := by
  obtain ⟨new, htrace, hadmits, logins, hlogins, hdialogue⟩ := call_adds uri payload allowRedirect c
  have hconversation := hdialogue.conversation hlogins
  obtain ⟨new', hproceeds⟩ := follows_call uri payload allowRedirect c
  obtain rfl : new' = new := List.append_cancel_left (hproceeds.trace.symm.trans htrace)
  refine ⟨new', htrace, hadmits _, hconversation, fun before v h frame after hnew => ?_⟩
  obtain ⟨endpoint, t, hline, hturn⟩ := hproceeds.settles before v h frame after hnew
  refine ⟨endpoint, t, hline, hturn, fun e he => ?_⟩
  rw [he] at hturn
  obtain ⟨rest, hrest⟩ : ∃ rest, turns after = .failure v e :: rest :=
    List.head?_eq_some_iff.1 hturn
  have hturns : turns new' = turns before ++ [.request v] ++ .failure v e :: rest := by
    rw [hnew, turns_append, turns_cons_request, hrest, List.append_cons]
  obtain ⟨rfl, hresult⟩ := hconversation.failed v e _ rest hturns
  refine ⟨hresult, fun later hlater hkind => ?_⟩
  cases later with
  | request v' h' frame' =>
      have hmem : Turn.request v' ∈ turns after := List.mem_filterMap.2 ⟨_, hlater, rfl⟩
      rw [hrest, List.mem_singleton] at hmem
      cases hmem
  | _ => cases hkind

end Client

end ClusterRpc
